import ShelfLibrary.Proofs.Invariant
import ShelfLibrary.Proofs.Plan

/-!
# Work over stores in memory

A proper call reads or writes a shelf where a path says, or makes a change of the nodes that fits
them.  Stores in memory refuse no proper call, so that each step of the work on the nodes and on the
catalog comes to one end.
-/

namespace ShelfLibrary

/-- A location that a path has by itself. -/
def Location.IsCanonical (location : Location) : Prop :=
  ∃ key, Path.isValid key = true ∧ location = .ofKey key

theorem IsTree.canonical {nodes : Table Entry} {key : String} {entry : Entry}
    (tree : IsTree nodes) (found : Table.get? nodes key = some entry) :
    entry.location.IsCanonical :=
  ⟨key, tree.valid key entry found, tree.located key entry found⟩

/-- A change that fits a table and registers paths only, where they say. -/
def Delta.Fits (table : Table Entry) : Delta → Prop
  | .put key entry =>
    Path.isValid key = true ∧ entry.location = .ofKey key ∧ Table.contains table key = false
  | .update key entry =>
    Path.isValid key = true ∧ entry.location = .ofKey key ∧ Table.contains table key = true
  | .remove key => Table.contains table key = true
  | .clear => True

/-- A call that a library in order makes of stores that hold something. -/
def StoreCall.IsProper : StoreCall → MemoryStores → Prop
  | .changeNodes delta, held => delta.Fits held.nodes
  | .loadShelf location, _ => location.IsCanonical
  | .storeShelf location _, _ => location.IsCanonical
  | .deleteShelf location, _ => location.IsCanonical
  | _, _ => True

/-- An action makes proper calls only of stores in memory, and a goal holds at its end. -/
abbrev Action.Attains {s α : Type} (action : Action s α) (state : s) (held : MemoryStores)
    (goal : Except LibraryError α → s → MemoryStores → Prop) : Prop :=
  Action.Ends MemoryStores.answer StoreCall.IsProper action state held goal

variable {held : MemoryStores} {key : String} {entry : Entry}

theorem Delta.Fits.apply_eq {delta : Delta} {nodes : Table Entry} (fits : delta.Fits nodes) :
    delta.apply nodes = .ok (delta.applyTo nodes) := by
  have accepted : delta.check nodes = .ok () := by
    cases delta with
    | put key entry => simp [Delta.check, fits.2.2]
    | update key entry => simp [Delta.check, fits.2.2]
    | remove key => simp [Delta.check, show Table.contains nodes key = true from fits]
    | clear => rfl
  rw [Delta.apply, accepted]
  rfl

theorem MemoryStores.answer_changeNodes {delta : Delta} (fits : delta.Fits held.nodes) :
    answer (.changeNodes delta) held =
      (.ok (), { held with nodes := delta.applyTo held.nodes }) := by
  rw [answer, fits.apply_eq]

/-- Stores in memory answer every proper call. -/
theorem MemoryStores.exists_answer {request : StoreCall} (proper : request.IsProper held) :
    ∃ reply, (answer request held).1 = .ok reply := by
  cases request with
  | changeNodes delta => exact ⟨(), by rw [answer_changeNodes proper]⟩
  | _ => exact ⟨_, rfl⟩

/-! ## Shelves -/

section Shelves

variable {s : Type} {state : s} {location : Location}

theorem attains_storeShelf (canonical : location.IsCanonical) {contents : ShelfData}
    {goal : Except LibraryError Unit → s → MemoryStores → Prop}
    (next : goal (.ok ()) state
      { held with shelves := Table.insert held.shelves location.path contents }) :
    Action.Attains (Action.ask (.storeShelf location contents)) state held goal :=
  Action.ends_ask.mpr ⟨canonical, next⟩

theorem attains_deleteShelf (canonical : location.IsCanonical)
    {goal : Except LibraryError Unit → s → MemoryStores → Prop}
    (next : goal (.ok ()) state
      { held with shelves := Table.erase held.shelves location.path }) :
    Action.Attains (Action.ask (.deleteShelf location)) state held goal :=
  Action.ends_ask.mpr ⟨canonical, next⟩

theorem attains_loadShelf (canonical : location.IsCanonical)
    {goal : Except LibraryError (Option ShelfData) → s → MemoryStores → Prop}
    (next : goal (.ok (Table.get? held.shelves location.path)) state held) :
    Action.Attains (Action.ask (.loadShelf location)) state held goal :=
  Action.ends_ask.mpr ⟨canonical, next⟩

end Shelves

/-! ## Work on the nodes -/

namespace Namespace

variable {goal : Except LibraryError Unit → Namespace → MemoryStores → Prop}

theorem attains_change {delta : Delta} {nodes : Namespace} (fits : delta.Fits held.nodes)
    (next : goal (.ok ()) nodes { held with nodes := delta.applyTo held.nodes }) :
    Action.Attains (Action.ask (.changeNodes delta)) nodes held goal := by
  rw [Action.Attains, Action.ends_ask, MemoryStores.answer_changeNodes fits]
  exact ⟨fits, next⟩

theorem attains_verify {nodes : Namespace} (same : nodes = ofTable held.nodes) {operation : String}
    (next : goal (.ok ()) nodes held) :
    Action.Attains (verify operation) nodes held goal := by
  subst same
  refine Action.ends_bind.mpr (Action.ends_ask.mpr ⟨trivial, ?_⟩)
  have entries : (ofTable held.nodes).entries.length = held.nodes.length := rfl
  simpa [MemoryStores.answer, size_ofTable, entries] using next

theorem attains_add {nodes : Namespace} (same : nodes = ofTable held.nodes)
    (free : (ofTable held.nodes).IsFree key) (located : entry.location = .ofKey key)
    (next : goal (.ok ()) (ofTable (Table.insert held.nodes key entry))
      { held with nodes := Table.insert held.nodes key entry }) :
    Action.Attains (add key entry) nodes held goal := by
  subst same
  have absent : Table.contains held.nodes key = false := Table.contains_eq_false_iff.mpr free.absent
  have fits : (Delta.put key entry).Fits held.nodes := ⟨free.valid, located, absent⟩
  simp only [add, free.valid, Bool.not_true, Bool.false_eq_true, if_false, Action.Attains,
    Action.ends_bind, Action.ends_get, contains_ofTable, absent]
  refine attains_change fits ?_
  simp only [Action.ends_modify, ofTable_insert]
  exact attains_verify rfl next

theorem attains_remove {goal : Except LibraryError Entry → Namespace → MemoryStores → Prop}
    {nodes : Namespace} (same : nodes = ofTable held.nodes)
    (found : Table.get? held.nodes key = some entry)
    (next : goal (.ok entry) (ofTable (Table.erase held.nodes key))
      { held with nodes := Table.erase held.nodes key }) :
    Action.Attains (remove key) nodes held goal := by
  subst same
  have fits : (Delta.remove key).Fits held.nodes := Table.contains_iff.mpr ⟨entry, found⟩
  simp only [remove, Action.Attains, Action.ends_bind, Action.ends_get, get?_ofTable, found]
  refine attains_change fits ?_
  simp only [Action.ends_modify, ofTable_erase]
  apply attains_verify
  · rfl
  · exact next

/-- New nodes, each of them stored where its key says, are added one after another. -/
theorem attains_putAll {nodes : Namespace} (same : nodes = ofTable held.nodes) {saved : List Node}
    (fresh : ∀ node ∈ saved, Table.contains held.nodes node.1 = false)
    (distinct : (saved.map Prod.fst).Nodup)
    (fit : ∀ node ∈ saved, Path.isValid node.1 = true ∧ node.2.location = .ofKey node.1)
    (next : goal (.ok ()) (ofTable (Table.overwrite held.nodes saved))
      { held with nodes := Table.overwrite held.nodes saved }) :
    Action.Attains (putAll saved) nodes held goal := by
  induction saved generalizing held nodes with
  | nil => exact same ▸ next
  | cons node rest ih =>
      obtain ⟨key, entry⟩ := node
      obtain ⟨first, others⟩ := List.nodup_cons.mp distinct
      obtain ⟨valid, located⟩ := fit (key, entry) List.mem_cons_self
      have fits : (Delta.put key entry).Fits held.nodes :=
        ⟨valid, located, fresh (key, entry) List.mem_cons_self⟩
      refine Action.ends_bind.mpr (attains_change fits ?_)
      refine ih (same ▸ ofTable_insert held.nodes key entry) ?_ others ?_ next
      · intro node member
        have different : key ≠ node.1 :=
          fun same => first (List.mem_map.mpr ⟨node, member, same.symm⟩)
        change Table.contains (Table.insert held.nodes key entry) node.1 = false
        rw [Table.contains, Table.get?_insert_of_ne held.nodes entry different]
        exact fresh node (List.mem_cons_of_mem _ member)
      · exact fun node member => fit node (List.mem_cons_of_mem _ member)

theorem attains_restore {saved : Table Entry} (sorted : Table.Sorted saved)
    (fit : ∀ node ∈ saved, Path.isValid node.1 = true ∧ node.2.location = .ofKey node.1)
    {nodes : Namespace}
    (next : goal (.ok ()) (ofTable saved) { held with nodes := saved }) :
    Action.Attains (restore saved) nodes held goal := by
  have whole : Table.overwrite [] saved = saved := Table.ofEntries_of_sorted sorted
  simp only [restore, Action.Attains, Action.ends_bind]
  refine attains_change (show Delta.clear.Fits held.nodes from trivial) ?_
  simp only [Action.ends_set]
  apply attains_putAll
  · rfl
  · exact fun _ _ => rfl
  · exact Table.nodup_keys sorted
  · exact fit
  simp only [Delta.applyTo, whole]
  exact attains_verify rfl next

end Namespace

end ShelfLibrary
