import ShelfLibrary.Proofs.Faults

/-!
# The tree under refusals

Whichever calls the stores refuse, a library keeps showing the stored nodes, these stay a tree, and
no registered shelf loses its contents; contents may stay behind where no shelf is registered any
more.  What an operation does before it is refused need not be undone for that.  A transaction is
undone, and where that is refused too the library is poisoned.
-/

namespace ShelfLibrary

open Session

variable {α β : Type} {library current : Library} {held now : MemoryStores} {key : String}
  {entry : Entry} {touched : String → Prop}

/-! ## A tree that stands -/

/-- A library shows the stored nodes, these are a tree, and every shelf in it has contents. -/
structure Library.Stands (library : Library) (held : MemoryStores) : Prop
    extends library.Shows held where
  /-- At the place of every shelf there are contents. -/
  stored : ∀ key entry, Table.get? held.nodes key = some entry → entry.isShelf = true →
    Table.contains held.shelves (Location.placeOf key) = true

namespace Library.Stands

theorem empty : Library.empty.Stands .empty where
  nodes_eq := rfl
  tree := .empty
  stored := by simp [MemoryStores.empty]

/-- The catalog may be another one. -/
theorem renote (stands : library.Stands held) (catalog : Catalog) (stored : Option Catalog) :
    Stands { library with catalog := catalog } { held with catalog := stored } :=
  ⟨⟨stands.nodes_eq, stands.tree⟩, stands.stored⟩

/-- A node may be registered under a free key, a shelf if it has contents already. -/
theorem insert (stands : library.Stands held) (free : (Namespace.ofTable held.nodes).IsFree key)
    (located : entry.location = .ofKey key)
    (covered : entry.isShelf = true →
      Table.contains held.shelves (Location.placeOf key) = true) :
    Stands { library with nodes := .ofTable (Table.insert held.nodes key entry) }
      { held with nodes := Table.insert held.nodes key entry } where
  nodes_eq := rfl
  tree := stands.tree.insert free located
  stored other found there kind := by
    rw [Table.get?_insert] at there
    split at there
    · rename_i same
      obtain rfl := Option.some.inj there
      exact same ▸ covered kind
    · exact stands.stored other found there kind

/-- A node with nothing below it may be removed. -/
theorem erase (stands : library.Stands held)
    (leaf : ∀ other found, Table.get? held.nodes other = some found →
      Path.isWithin other key = true → other = key) :
    Stands { library with nodes := .ofTable (Table.erase held.nodes key) }
      { held with nodes := Table.erase held.nodes key } where
  nodes_eq := rfl
  tree := by
    have closed : ∀ above ∈ [key], ∀ other found, Table.get? held.nodes other = some found →
        Path.isWithin other above = true → other ∈ [key] := by
      intro above removed other found there within
      obtain rfl := List.mem_singleton.mp removed
      exact List.mem_singleton.mpr (leaf other found there within)
    exact stands.tree.eraseAll closed
  stored other found there kind := by
    rw [Table.get?_erase] at there
    split at there
    · cases there
    · exact stands.stored other found there kind

/-- Contents may be stored anywhere. -/
theorem store (stands : library.Stands held) (place : String) (contents : ShelfData) :
    library.Stands { held with shelves := Table.insert held.shelves place contents } := by
  refine ⟨⟨stands.nodes_eq, stands.tree⟩, fun other found there kind => ?_⟩
  rw [Table.contains, Table.get?_insert]
  split
  · rfl
  · exact stands.stored other found there kind

/-- Contents may be deleted where no shelf is. -/
theorem drop (stands : library.Stands held) {place : String}
    (vacant : ∀ other found, Table.get? held.nodes other = some found → found.isShelf = true →
      Location.placeOf other ≠ place) :
    library.Stands { held with shelves := Table.erase held.shelves place } := by
  refine ⟨⟨stands.nodes_eq, stands.tree⟩, fun other found there kind => ?_⟩
  rw [Table.contains, Table.get?_erase_of_ne held.shelves (vacant other found there kind).symm]
  exact stands.stored other found there kind

end Library.Stands

theorem Library.Mirrors.stands (mirrors : library.Mirrors held) : library.Stands held where
  toShows := mirrors.shows
  stored key entry found kind := (mirrors.consistent.stored _).mpr ⟨key, entry, found, kind, rfl⟩

namespace Library

/-- An operation that began with some stores ends, with or without a refusal, with a tree that
stands, and has left alone each shelf outside some keys. -/
def Endures (held : MemoryStores) (touched : String → Prop) (after : Library)
    (now : MemoryStores) : Prop :=
  after.Stands now ∧ held.Keeps touched now

/-! ## Steps -/

theorem Stands.endures (stands : library.Stands held) : Endures held touched library held :=
  ⟨stands, .refl touched held⟩

/-- An operation goes on after an action that only reads. -/
theorem endures_after {action : Task β} {next : β → Task α} {found : β → Prop}
    (stands : library.Stands held) (reads : Action.Reads (fun _ => True) action)
    (attains : Action.Attains action library held (Untouched library held found))
    (onward : ∀ value, found value →
      Action.Withstands (next value) library held fun _ => Endures held touched) :
    Action.Withstands (action >>= next) library held fun _ => Endures held touched := by
  refine Action.withstands_bind.mpr ((reads.withstands attains).imp fun result after now => ?_)
  rintro ⟨rfl, rfl, outcome⟩
  cases result with
  | ok value => exact onward value (outcome value rfl).2.2
  | error e => exact stands.endures

/-- An operation goes on with what a function of the nodes finds. -/
theorem endures_resolving {find : Namespace → Except LibraryError β} {next : β → Task α}
    (stands : library.Stands held) (refuses : ∀ nodes, Result.IsRefusal (find nodes))
    (onward : ∀ value, find (.ofTable held.nodes) = .ok value →
      Action.Withstands (next value) library held fun _ => Endures held touched) :
    Action.Withstands (resolving find >>= next) library held fun _ => Endures held touched := by
  rw [← stands.nodes_eq] at onward
  exact endures_after stands (reads_resolving admits_all refuses)
    (untouched_of_isMild (refuses library.nodes).isMild) onward

/-- An operation that reports on another ends like it. -/
theorem endures_report {action : Task β} {report : β → α} {start : MemoryStores}
    (endures : Action.Withstands action library held fun _ => Endures start touched) :
    Action.Withstands (action >>= fun value => pure (report value)) library held
      fun _ => Endures start touched := by
  refine Action.withstands_bind.mpr (endures.imp fun result after now ended => ?_)
  cases result <;> exact ended

theorem withstands_editCatalog {edit : Catalog → Catalog}
    {goal : Except LibraryError Unit → Library → MemoryStores → Prop}
    (done : goal (.ok ()) { library with catalog := edit library.catalog }
      { held with catalog := some (edit library.catalog) })
    (refused : ∀ e, goal (.error e) library held) :
    Action.Withstands (editCatalog edit) library held goal :=
  Action.withstands_bind.mpr (Action.withstands_bind.mpr
    (Action.withstands_ask.mpr ⟨done, fun _ cause => refused (.storage cause)⟩))

theorem endures_editCatalog {start : MemoryStores} (endures : Endures start touched library held)
    (edit : Catalog → Catalog) :
    Action.Withstands (editCatalog edit) library held fun _ => Endures start touched :=
  withstands_editCatalog ⟨endures.1.renote _ _, endures.2⟩ fun _ => endures

end Library

/-! ## Nodes -/

namespace Namespace

variable {nodes : Namespace}

theorem withstands_verify (same : nodes = ofTable held.nodes) {operation : String}
    {goal : Except LibraryError Unit → Namespace → MemoryStores → Prop}
    (next : goal (.ok ()) nodes held) :
    Action.Withstands (verify operation) nodes held goal := by
  subst same
  refine Action.withstands_bind.mpr (Action.withstands_ask.mpr ⟨?_, fun told => absurd rfl told⟩)
  have entries : (ofTable held.nodes).entries.length = held.nodes.length := rfl
  simpa [MemoryStores.answer, size_ofTable, entries] using next

theorem withstands_change {delta : Delta} (fits : delta.Fits held.nodes)
    {goal : Except LibraryError Unit → Namespace → MemoryStores → Prop}
    (done : goal (.ok ()) nodes { held with nodes := delta.applyTo held.nodes })
    (refused : ∀ e, goal (.error e) nodes held) :
    Action.Withstands (Action.ask (.changeNodes delta)) nodes held goal := by
  rw [Action.withstands_ask, MemoryStores.answer_changeNodes fits]
  exact ⟨done, fun _ cause => refused (.storage cause)⟩

theorem withstands_add (same : nodes = ofTable held.nodes)
    (free : (ofTable held.nodes).IsFree key) (located : entry.location = .ofKey key)
    {goal : Except LibraryError Unit → Namespace → MemoryStores → Prop}
    (done : goal (.ok ()) (ofTable (Table.insert held.nodes key entry))
      { held with nodes := Table.insert held.nodes key entry })
    (refused : ∀ e, goal (.error e) nodes held) :
    Action.Withstands (add key entry) nodes held goal := by
  subst same
  have absent : Table.contains held.nodes key = false := Table.contains_eq_false_iff.mpr free.absent
  have fits : (Delta.put key entry).Fits held.nodes := ⟨free.valid, located, absent⟩
  simp only [add, free.valid, Bool.not_true, Bool.false_eq_true, if_false,
    Action.withstands_bind, Action.withstands_get, contains_ofTable, absent]
  refine withstands_change fits ?_ refused
  simp only [Action.withstands_modify, ofTable_insert]
  exact withstands_verify rfl done

theorem withstands_remove (same : nodes = ofTable held.nodes)
    (found : Table.get? held.nodes key = some entry)
    {goal : Except LibraryError Entry → Namespace → MemoryStores → Prop}
    (done : goal (.ok entry) (ofTable (Table.erase held.nodes key))
      { held with nodes := Table.erase held.nodes key })
    (refused : ∀ e, goal (.error e) nodes held) :
    Action.Withstands (remove key) nodes held goal := by
  subst same
  have fits : (Delta.remove key).Fits held.nodes := Table.contains_iff.mpr ⟨entry, found⟩
  simp only [remove, Action.withstands_bind, Action.withstands_get, get?_ofTable, found]
  refine withstands_change fits ?_ refused
  simp only [Action.withstands_modify, ofTable_erase]
  apply withstands_verify
  · rfl
  · exact done

end Namespace

namespace Library

/-! ## Building -/

theorem endures_buildSection (stands : library.Stands held) (step : BuildSection) :
    Action.Withstands (buildSection step) library held fun _ => Endures held touched := by
  refine endures_resolving stands (fun nodes => Namespace.isRefusal_resolveTarget nodes _ _) ?_
  intro key found
  have free := Namespace.isFree_of_resolveTarget found
  have absent : Table.get? held.nodes key = none := free.absent
  have built : Stands
      { library with nodes := .ofTable (Table.insert held.nodes key (.ofSection key)) }
      { held with nodes := Table.insert held.nodes key (.ofSection key) } :=
    stands.insert free rfl (by rintro ⟨⟩)
  have apart : held.Keeps touched
      { held with nodes := Table.insert held.nodes key (.ofSection key) } :=
    stands.tree.keeps_add free rfl fun _ _ => rfl
  have gone : Table.erase (Table.insert held.nodes key (.ofSection key)) key = held.nodes :=
    Table.erase_insert stands.tree.sorted absent _
  refine Action.withstands_bind.mpr (Action.withstands_on.mpr ?_)
  refine Namespace.withstands_add stands.nodes_eq free rfl ?_ fun e => stands.endures
  refine Action.withstands_bind.mpr (Action.withstands_tryCatch.mpr
    (withstands_editCatalog ⟨built.renote _ _, apart⟩ fun e => ?_))
  -- The catalog could not be stored, and the section is removed again, or stays without a note.
  refine Action.withstands_bind.mpr (Action.withstands_on.mpr ?_)
  have there : Table.get? (Table.insert held.nodes key (.ofSection key)) key =
      some (.ofSection key) := by rw [Table.get?_insert, if_pos rfl]
  refine @Namespace.withstands_remove { held with nodes := _ } _ _ _ rfl there _ ?_
    fun _ => ⟨built, apart⟩
  rw [gone, ← stands.nodes_eq]
  exact stands.endures

theorem withstands_discard {location : Location}
    {goal : Except LibraryError Unit → Library → MemoryStores → Prop}
    (done : goal (.ok ()) library
      { held with shelves := Table.erase held.shelves location.path })
    (refused : goal (.ok ()) library held) :
    Action.Withstands (discard location) library held goal :=
  ⟨done, fun _ _ => refused⟩

theorem endures_buildShelf (stands : library.Stands held) (step : BuildShelf) :
    Action.Withstands (buildShelf step) library held fun _ => Endures held touched := by
  refine endures_resolving stands (fun nodes => Namespace.isRefusal_resolveTarget nodes _ _) ?_
  intro key found
  have free := Namespace.isFree_of_resolveTarget found
  refine endures_after stands (reads_firstRecord admits_all step) (attains_firstRecord step) ?_
  intro record _
  let filled := Table.insert held.shelves (Location.placeOf key) ⟨record, step.metadata⟩
  have stored : library.Stands { held with shelves := filled } := stands.store _ _
  have elsewhere (place : String) (other : Location.placeOf key ≠ place) :
      Table.get? filled place = Table.get? held.shelves place := Table.get?_insert_of_ne _ _ other
  have apart {shelves : Table ShelfData} (same : ∀ place, Location.placeOf key ≠ place →
      Table.get? shelves place = Table.get? held.shelves place) :
      held.Keeps touched { held with shelves := shelves } :=
    .at_place (fun other found there same =>
      absurd same (stands.tree.placeOf_ne_of_free free there))
      same
  refine Action.withstands_bind.mpr (Action.withstands_ask.mpr
    ⟨?_, fun _ cause => stands.endures⟩)
  refine Action.withstands_bind.mpr (Action.withstands_tryCatch.mpr (Action.withstands_on.mpr ?_))
  refine @Namespace.withstands_add { held with shelves := filled } _ _ _ stands.nodes_eq free rfl _
    ⟨stored.insert free rfl fun _ => ?_, stands.tree.keeps_add free rfl elsewhere⟩ fun e => ?_
  · exact Table.contains_iff.mpr ⟨_, by rw [Table.get?_insert, if_pos rfl]⟩
  · -- The shelf could not be registered, and its contents are dropped, or stay where no shelf is.
    refine Action.withstands_bind.mpr (withstands_discard ?_ ⟨stored, apart elsewhere⟩)
    refine ⟨stored.drop fun other found there _ => ?_, apart fun place other => ?_⟩
    · exact (stands.tree.placeOf_ne_of_free free there).symm
    · exact (Table.get?_erase_of_ne filled other).trans (elsewhere place other)

/-! ## Changing records -/

section Commits

variable {mayBecome : String → Record → Prop}
  (covers : ∀ key record, mayBecome key record → touched key)

include covers

/-- Storing the contents of registered shelves, as far as it comes, leaves the tree standing. -/
theorem endures_storeAll (stands : library.Stands held) {session : Session}
    (fits : session.Fits held.nodes mayBecome) :
    Action.Withstands (storeAll session) library held fun _ => Endures held touched := by
  induction session generalizing held with
  | nil => exact stands.endures
  | cons opened rest ih =>
      obtain ⟨key, location, contents, isChanged⟩ := opened
      obtain ⟨⟨entry, found, kind⟩, located, allowed⟩ := fits _ List.mem_cons_self
      obtain rfl : location = .ofKey key := located
      have others : Fits rest held.nodes mayBecome :=
        fun opened member => fits opened (List.mem_cons_of_mem _ member)
      unfold storeAll
      split
      · rename_i changed
        refine Action.withstands_bind.mpr (Action.withstands_ask.mpr
          ⟨?_, fun _ _ => stands.endures⟩)
        have still := stands.store (Location.placeOf key) contents
        have kept := (stands.tree.revises found (allowed changed)).keeps covers
        refine (ih still others).imp fun result after now => ?_
        rintro ⟨last, keeps⟩
        exact ⟨last, kept.trans keeps⟩
      · exact ih stands others

/-- Work that only reads before it stores what has been held back leaves the tree standing. -/
theorem Commits.endures (stands : library.Stands held) {task : Session.Task α}
    (commits : Commits library held mayBecome task) {session : Session}
    (fits : session.Fits held.nodes mayBecome) :
    Action.Withstands (task session) library held fun _ => Endures held touched := by
  induction commits generalizing session with
  | stored value =>
      have committed : Action.Withstands (commit.run session) library held
          fun _ => Endures held touched := by
        rw [run_commit]
        exact endures_report (endures_storeAll covers stands fits)
      refine Action.withstands_bind.mpr (committed.imp fun result after now ended => ?_)
      cases result <;> exact ended
  | refused mild => exact stands.endures
  | after prepares reads onward ih =>
      refine Action.withstands_bind.mpr (((reads session).withstands (prepares session fits)).imp
        fun result after now => ?_)
      rintro ⟨rfl, rfl, outcome⟩
      cases result with
      | ok value =>
          obtain ⟨-, -, found, still⟩ := outcome value rfl
          exact ih value.1 found still
      | error e => exact stands.endures

end Commits

theorem IsCommitted.endures (stands : library.Stands held) {path : String} {action : Task α}
    (committed : IsCommitted library held (library.MayBecome path) action) :
    Action.Withstands action library held fun _ => Endures held (Touches path) := by
  obtain ⟨task, commits, rfl⟩ := committed
  have covers : ∀ key record, library.MayBecome path key record → Touches path key :=
    fun key record => And.left
  refine Action.withstands_map.mpr ((commits.endures covers stands (fits_nil _ _)).imp ?_)
  exact fun result after now ended => ended

/-! ## Removing -/

/-- Nodes that may be removed one after another, since nothing lies below a node once those before
it are gone. -/
structure AreRemovable (nodes : Table Entry) (gone : List Namespace.Node) : Prop where
  /-- Each of them is registered. -/
  registered : ∀ node ∈ gone, Table.get? nodes node.1 = some node.2
  /-- Whatever lies within one of them is among them. -/
  closed : ∀ node ∈ gone, ∀ key entry, Table.get? nodes key = some entry →
    Path.isWithin key node.1 = true → key ∈ gone.map Prod.fst
  /-- None of them lies within one before it. -/
  ordered : gone.Pairwise fun first later => ¬Path.isWithin later.1 first.1 = true

namespace AreRemovable

variable {nodes : Table Entry} {node : Namespace.Node} {rest : List Namespace.Node}

/-- Nothing lies below the first of them. -/
theorem leaf (removable : AreRemovable nodes (node :: rest))
    (found : Table.get? nodes key = some entry) (within : Path.isWithin key node.1 = true) :
    key = node.1 := by
  have member := removable.closed node List.mem_cons_self key entry found within
  rcases List.mem_cons.mp member with same | later
  · exact same
  · obtain ⟨other, there, rfl⟩ := List.mem_map.mp later
    exact absurd within (List.rel_of_pairwise_cons removable.ordered there)

/-- The others are still removable once the first is gone. -/
theorem tail (removable : AreRemovable nodes (node :: rest)) :
    AreRemovable (Table.erase nodes node.1) rest where
  registered other member := by
    have different : node.1 ≠ other.1 := by
      intro same
      refine List.rel_of_pairwise_cons removable.ordered member ?_
      rw [same]
      exact Path.isWithin_self other.1
    rw [Table.get?_erase_of_ne nodes different]
    exact removable.registered other (List.mem_cons_of_mem node member)
  closed other member key entry found within := by
    rw [Table.get?_erase] at found
    split at found
    · cases found
    · rename_i different
      have inside := removable.closed other
        (List.mem_cons_of_mem node member) key entry found within
      rcases List.mem_cons.mp inside with same | later
      · exact absurd same.symm different
      · exact later
  ordered := (List.pairwise_cons.mp removable.ordered).2

end AreRemovable

/-- Shelves may be removed in any order. -/
theorem AreUnder.areRemovable {nodes : Table Entry} (tree : IsTree nodes) {path : String}
    {gone : List Namespace.Node} (under : AreUnder nodes path gone) : AreRemovable nodes gone where
  registered := under.registered
  closed node member key entry found within := by
    obtain rfl := tree.eq_of_isWithin_shelf (under.registered node member) (under.kind node member)
      found within
    exact List.mem_map_of_mem member
  ordered := by
    refine (List.pairwise_map.mp under.distinct).imp_of_mem ?_
    intro first later firstMember laterMember different within
    exact different (tree.eq_of_isWithin_shelf (under.registered first firstMember)
      (under.kind first firstMember) (under.registered later laterMember) within).symm

/-- A section and what lies in it may be removed from the last key to the first, since what lies
within a key comes after it. -/
theorem areRemovable_subtree {nodes : Table Entry} (sorted : Table.Sorted nodes) (path : String) :
    AreRemovable nodes (nodes.filter fun node => Path.isWithin node.1 path).reverse where
  registered node member := by
    rw [List.mem_reverse, List.mem_filter] at member
    exact Table.get?_of_mem sorted member.1
  closed node member key entry found within := by
    rw [List.mem_reverse, List.mem_filter] at member
    refine List.mem_map.mpr ⟨(key, entry), ?_, rfl⟩
    rw [List.mem_reverse, List.mem_filter]
    exact ⟨Table.mem_of_get? found, Path.isWithin_trans within member.2⟩
  ordered := by
    rw [List.pairwise_reverse]
    refine (Table.sorted_filter sorted _).imp fun {first later} before within => ?_
    exact Path.not_lt_of_isPrefix (Path.isPrefix_of_isWithin within) before

/-- Removing nodes, as far as it comes, leaves the tree standing: a shelf loses its contents only
after its key. -/
theorem endures_deleteNodes (stands : library.Stands held) {gone : List Namespace.Node}
    (removable : AreRemovable held.nodes gone) (allowed : ∀ node ∈ gone, touched node.1) :
    Action.Withstands (deleteNodes gone) library held fun _ => Endures held touched := by
  induction gone generalizing library held with
  | nil => exact stands.endures
  | cons node rest ih =>
      obtain ⟨key, entry⟩ := node
      have there := removable.registered (key, entry) List.mem_cons_self
      have located := stands.tree.located key entry there
      have valid := stands.tree.valid key entry there
      have still : Stands { library with nodes := .ofTable (Table.erase held.nodes key) }
          { held with nodes := Table.erase held.nodes key } :=
        stands.erase fun other found present => removable.leaf present
      have kept : held.Keeps touched { held with nodes := Table.erase held.nodes key } := by
        intro other found present kind apart
        have different : key ≠ other := by
          rintro rfl
          exact apart (allowed (key, entry) List.mem_cons_self)
        exact ⟨by rw [Table.get?_erase_of_ne held.nodes different, present], rfl⟩
      have others := fun node member => allowed node (List.mem_cons_of_mem (key, entry) member)
      refine Action.withstands_bind.mpr (Action.withstands_on.mpr
        (Namespace.withstands_remove stands.nodes_eq there ?_ fun e => stands.endures))
      have vacant : ∀ other found, Table.get? (Table.erase held.nodes key) other = some found →
          entry.location.path ≠ Location.placeOf other := by
        intro other found present same
        rw [located] at same
        rw [Table.get?_erase] at present
        split at present
        · cases present
        · rename_i different
          exact different (Location.placeOf_injective valid
            (stands.tree.valid other found present) same)
      cases kind : entry.isShelf with
      | true =>
          simp only [if_true]
          refine Action.withstands_bind.mpr (Action.withstands_ask.mpr
            ⟨?_, fun _ _ => ⟨still, kept⟩⟩)
          have dropped := still.drop fun other found present _ => (vacant other found present).symm
          refine (ih dropped removable.tail others).imp fun result after now => ?_
          rintro ⟨last, keeps⟩
          refine ⟨last, (kept.trans ?_).trans keeps⟩
          exact .at_place (fun other found present same => absurd same (vacant other found present))
            fun place => Table.get?_erase_of_ne held.shelves
      | false =>
          simp only [Bool.false_eq_true, if_false]
          refine (ih still removable.tail others).imp fun result after now => ?_
          rintro ⟨last, keeps⟩
          exact ⟨last, kept.trans keeps⟩

theorem endures_deleteShelves (stands : library.Stands held) {path : String}
    {gone : List Namespace.Node} (under : AreUnder held.nodes path gone) :
    Action.Withstands (deleteNodes gone) library held fun _ => Endures held (Touches path) :=
  endures_deleteNodes stands (under.areRemovable stands.tree)
    fun node member => touches_of_isWithin (under.within node member)

theorem endures_deleteSection (stands : library.Stands held) (path : String) :
    Action.Withstands (deleteSection path) library held fun _ => Endures held (Touches path) := by
  let inside := held.nodes.filter fun node => Path.isWithin node.1 path
  have scanned : library.nodes.subtree path = inside := by
    rw [stands.nodes_eq, Namespace.subtree_ofTable stands.tree.sorted]
  have removable : AreRemovable held.nodes inside.reverse :=
    areRemovable_subtree stands.tree.sorted path
  have allowed : ∀ node ∈ inside.reverse, Touches path node.1 := by
    intro node member
    exact touches_of_isWithin (List.mem_filter.mp (List.mem_reverse.mp member)).2
  refine Action.withstands_bind.mpr (Action.withstands_get.mpr ?_)
  simp only [scanned]
  refine Action.withstands_bind.mpr ((endures_deleteNodes stands removable allowed).imp
    fun result after now => ?_)
  intro ended
  cases result with
  | ok _ => exact endures_report (endures_editCatalog ended _)
  | error e => exact ended

theorem endures_remove (stands : library.Stands held) (step : Remove) :
    Action.Withstands (remove step) library held fun _ => Endures held (Touches step.path) := by
  unfold remove
  split
  · rename_i filters _
    refine endures_after stands
      (Session.Reads.once (reads_find admits_all step.path fun given _ => areClear_all given))
      (attains_once (prepares_find stands.toShows step.path (some filters))) ?_
    intro selected under
    rw [forM_deleteShelf under.kind]
    exact endures_report (endures_deleteShelves stands under)
  · split
    · refine endures_resolving stands (fun nodes => Namespace.isRefusal_resolveShelf nodes _) ?_
      intro entry found
      obtain ⟨registered, kind⟩ := Namespace.of_resolveShelf found
      rw [deleteShelf_eq step.path kind]
      exact endures_report (endures_deleteShelves stands (areUnder_singleton registered kind))
    · split
      · refine endures_resolving stands
          (fun nodes => Namespace.isRefusal_resolveSection nodes _) fun _ _ => ?_
        exact endures_report (endures_deleteSection stands step.path)
      · exact endures_report ((isCommitted_editField stands.toShows step.path _).endures stands)

/-! ## Every operation -/

theorem endures_reset (stands : library.Stands held) (step : Reset) :
    Action.Withstands (reset step) library held fun _ => Endures held (Touches step.path) := by
  unfold reset
  split
  · exact endures_report ((isCommitted_emptyShelves stands.toShows step).endures stands)
  · exact endures_report ((isCommitted_editField stands.toShows step.path _).endures stands)

theorem endures_setSchema (stands : library.Stands held) (step : SetSchema) :
    Action.Withstands (setSchema step) library held fun _ => Endures held touched := by
  unfold setSchema
  split
  · exact endures_report (endures_editCatalog stands.endures _)
  · split
    · exact stands.endures
    · rename_i path _
      refine endures_resolving stands (fun nodes => Namespace.isRefusal_resolveSection nodes path)
        fun _ _ => ?_
      exact endures_report (endures_editCatalog stands.endures _)

/-- Whichever of its calls are refused, an operation leaves the tree standing and leaves alone each
shelf outside the paths that it declares. -/
theorem endures_perform (stands : library.Stands held) (operation : Operation) :
    Action.Withstands (perform operation) library held fun _ => Endures held fun key =>
      Snapshot.isAffected operation.touchedPaths key = true := by
  cases operation with
  | buildSection step => exact endures_buildSection stands step
  | buildShelf step => exact endures_buildShelf stands step
  | write step => exact (isCommitted_write stands.toShows step).endures stands
  | checkOut step =>
      refine endures_after stands
        (Session.Reads.once (reads_readRows admits_all step fun given _ => areClear_all given))
        (attains_once (prepares_readRows stands.toShows step)) fun rows _ => ?_
      exact stands.endures
  | revise step => exact (isCommitted_revise stands.toShows step).endures stands
  | remove step => exact endures_remove stands step
  | reset step => exact endures_reset stands step
  | setSchema step => exact endures_setSchema stands step

end Library

end ShelfLibrary
