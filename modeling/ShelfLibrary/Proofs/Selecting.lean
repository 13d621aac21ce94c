import ShelfLibrary.Proofs.Caching

/-!
# What queries select

Which candidates a path has, what a path means for each of them and which of them a filter keeps are
functions of what is stored.  A session comes to just this, whatever has been read in it before.
-/

namespace ShelfLibrary

variable {α β : Type} {library : Library} {held : MemoryStores}

/-- The key of the shelf that has been gathered. -/
def Picked.key (picked : Picked) : String := picked.candidate.key

/-! ## Readings -/

namespace MemoryStores

section Readings

variable (held : MemoryStores)

/-- What stands at a path from the root; the absent value if nothing does. -/
def valueAt (path : String) : Value :=
  match (Namespace.ofTable held.nodes).resolveField path with
  | .ok address => (Record.lookup? (held.storedAt address.shelf).data address.names).getD .null
  | .error _ => .null

/-- What a path means for a candidate. -/
def operand (candidate : Candidate) (path : String) : Value :=
  (candidate.local? path).getD (held.valueAt path)

/-- Whether a filter holds for a candidate; without one, every candidate is kept. -/
def judge (filters : Option Filters) (candidate : Candidate) : Except LibraryError Bool :=
  match filters with
  | none => .ok true
  | some filters => filters.evaluate fun path => .ok (held.operand candidate path)

/-- Whether a candidate is kept. -/
def keeps (filters : Option Filters) (candidate : Candidate) : Bool :=
  (held.judge filters candidate).toOption == some true

@[simp]
theorem keeps_none (candidate : Candidate) : held.keeps none candidate = true := rfl

theorem keeps_iff {filters : Option Filters} {candidate : Candidate} :
    held.keeps filters candidate = true ↔ held.judge filters candidate = .ok true := by
  unfold keeps
  cases held.judge filters candidate <;> simp [Except.toOption]

/-- Those of some things that are kept, each by its candidate, if all of them can be judged. -/
def selection (filters : Option Filters) (candidate : α → Candidate) (items : List α) :
    Except LibraryError (List α) :=
  (items.mapM fun item => held.judge filters (candidate item)).map fun _ =>
    items.filter fun item => held.keeps filters (candidate item)

/-- The shelves at or under a path, in key order. -/
def shelvesWithin (path : String) : List Namespace.Node :=
  held.nodes.filter fun node => node.2.isShelf && Path.isWithin node.1 path

/-- A shelf as a candidate for a query of a path. -/
def candidate (path : String) (node : Namespace.Node) : Candidate :=
  ⟨node.1, node.2, Path.below? path node.1, (held.storedAt node.1).data⟩

/-- The candidates for a query of a path. -/
def candidates (path : String) : List Candidate :=
  (held.shelvesWithin path).map (held.candidate path)

end Readings

theorem mem_shelvesWithin (sorted : Table.Sorted held.nodes) {path key : String} {entry : Entry} :
    (key, entry) ∈ held.shelvesWithin path ↔ Table.get? held.nodes key = some entry ∧
      entry.isShelf = true ∧ Path.isWithin key path = true := by
  rw [shelvesWithin, List.mem_filter, Bool.and_eq_true, Table.get?_eq_some_iff sorted]

theorem sorted_shelvesWithin (sorted : Table.Sorted held.nodes) (path : String) :
    Table.Sorted (held.shelvesWithin path) :=
  Table.sorted_filter sorted _

theorem sorted_candidates (sorted : Table.Sorted held.nodes) (path : String) :
    (held.candidates path).Pairwise fun left right => left.key < right.key :=
  List.pairwise_map.mpr (sorted_shelvesWithin sorted path)

theorem nodup_candidates (sorted : Table.Sorted held.nodes) (path : String) :
    ((held.candidates path).map Candidate.key).Nodup :=
  List.pairwise_map.mpr ((sorted_candidates sorted path).imp fun below => below.ne)

theorem mem_candidates (sorted : Table.Sorted held.nodes) {path : String} {found : Candidate} :
    found ∈ held.candidates path ↔ ∃ entry, Table.get? held.nodes found.key = some entry ∧
      entry.isShelf = true ∧ Path.isWithin found.key path = true ∧
        found = held.candidate path (found.key, entry) := by
  rw [candidates, List.mem_map]
  constructor
  · rintro ⟨⟨key, entry⟩, member, rfl⟩
    obtain ⟨there, kind, within⟩ := (mem_shelvesWithin sorted).mp member
    exact ⟨entry, there, kind, within, rfl⟩
  · rintro ⟨entry, there, kind, within, same⟩
    exact ⟨(found.key, entry), (mem_shelvesWithin sorted).mpr ⟨there, kind, within⟩, same.symm⟩

/-- Where a path leads to a node, the shelves that a query of it is about are those within it. -/
theorem shelvesUnder_eq (tree : IsTree held.nodes) (path : String) :
    Library.shelvesUnder (.ofTable held.nodes) path =
      ((Namespace.ofTable held.nodes).resolve path).map fun _ => held.shelvesWithin path := by
  unfold Library.shelvesUnder
  cases resolved : (Namespace.ofTable held.nodes).resolve path with
  | error e => rfl
  | ok entry =>
      have registered : Table.get? held.nodes path = some entry :=
        (Namespace.of_resolve resolved).2
      change (if entry.isShelf = true then _ else _) = Except.ok (held.shelvesWithin path)
      split
      · rename_i kind
        -- Nothing else lies within a shelf.
        refine congrArg Except.ok (Table.ext_of_sorted (List.pairwise_singleton _ _)
          (sorted_shelvesWithin tree.sorted path) fun key => Option.ext fun found => ?_)
        rw [Table.get?_eq_some_iff (List.pairwise_singleton _ _),
          Table.get?_eq_some_iff (sorted_shelvesWithin tree.sorted path),
          mem_shelvesWithin tree.sorted, List.mem_singleton]
        constructor
        · rintro ⟨⟩
          exact ⟨registered, kind, Path.isWithin_self path⟩
        · rintro ⟨there, -, within⟩
          obtain rfl := tree.eq_of_isWithin_shelf registered kind there within
          rw [Option.some.inj (registered.symm.trans there)]
      · rw [Namespace.subtree_ofTable tree.sorted, List.filter_filter]
        rfl

/-- One thing more is judged before the others. -/
theorem selection_cons (filters : Option Filters) (candidate : α → Candidate) (item : α)
    (rest : List α) :
    held.selection filters candidate (item :: rest) =
      held.judge filters (candidate item) >>= fun keep =>
        (held.selection filters candidate rest).map fun others =>
          if keep then item :: others else others := by
  unfold selection
  rw [List.mapM_cons]
  cases judged : held.judge filters (candidate item) with
  | error e => rfl
  | ok keep =>
      have kept : held.keeps filters (candidate item) = keep := by
        cases keep <;> simp [keeps, judged, Except.toOption]
      rw [List.filter_cons, kept]
      cases rest.mapM fun item => held.judge filters (candidate item) <;> rfl

theorem selection_eq_ok {filters : Option Filters} {candidate : α → Candidate}
    {items kept : List α} :
    held.selection filters candidate items = .ok kept ↔
      (∀ item ∈ items, ∃ verdict, held.judge filters (candidate item) = .ok verdict) ∧
        kept = items.filter fun item => held.keeps filters (candidate item) := by
  rw [selection, Result.map_eq_ok, exists_and_right, Result.exists_mapM_iff]
  exact and_congr_right fun _ => eq_comm

theorem selection_none (candidate : α → Candidate) (items : List α) :
    held.selection none candidate items = .ok items :=
  selection_eq_ok.mpr ⟨fun _ _ => ⟨true, rfl⟩, by simp⟩

end MemoryStores

/-! ## Tasks that find readings -/

namespace Session.Finds

section Filters

variable {resolve : String → Session.Task Value} {read : String → Except LibraryError Value}

theorem evaluate_condition
    (resolves : ∀ path, Finds library held (resolve path) (read path)) (condition : Condition) :
    Finds library held (condition.evaluate resolve) (condition.evaluate read) := by
  have operand (value : Value) (isPath : Bool) : Finds library held
      (resolveOperand resolve value isPath) (resolveOperand read value isPath) := by
    unfold resolveOperand
    split
    · split
      · exact resolves _
      · exact .pure _
    · exact .pure _
  refine (operand _ _).bind fun left _ => (operand _ _).bind fun right _ => ?_
  split
  · exact .pure _
  · exact .throw _

mutual

theorem evaluate_item (resolves : ∀ path, Finds library held (resolve path) (read path))
    (item : FilterItem) : Finds library held (item.evaluate resolve) (item.evaluate read) := by
  cases item with
  | condition leaf => exact evaluate_condition resolves leaf
  | group items => exact evaluate_items resolves items
  | connective joint => exact .throw _

theorem evaluate_items (resolves : ∀ path, Finds library held (resolve path) (read path))
    (items : List FilterItem) :
    Finds library held (FilterItem.evaluateItems resolve items)
      (FilterItem.evaluateItems read items) := by
  cases items with
  | nil => exact .pure _
  | cons first rest =>
      exact (evaluate_item resolves first).bind fun result _ => evaluate_rest resolves result rest

theorem evaluate_rest (resolves : ∀ path, Finds library held (resolve path) (read path))
    (result : Bool) (items : List FilterItem) :
    Finds library held (FilterItem.evaluateRest resolve result items)
      (FilterItem.evaluateRest read result items) := by
  match items with
  | [] => exact .pure _
  | .connective joint :: operand :: rest =>
      unfold FilterItem.evaluateRest
      split
      · exact evaluate_rest resolves result rest
      · exact (evaluate_item resolves operand).bind fun right _ => evaluate_rest resolves _ rest
  | [.connective _] => exact .throw _
  | .condition _ :: _ => exact .throw _
  | .group _ :: _ => exact .throw _

end

end Filters

end Session.Finds

namespace Library

open Session

variable (shows : library.Shows held)

include shows

theorem finds_resolving {find : Namespace → Except LibraryError α} :
    Finds library held (liftM (resolving find)) (find (.ofTable held.nodes)) := by
  rw [← shows.nodes_eq]
  exact .lift ⟨rfl, rfl, rfl⟩

theorem finds_operand (candidate : Candidate) (path : String) :
    Finds library held (operand candidate path) (.ok (held.operand candidate path)) := by
  unfold operand MemoryStores.operand
  cases candidate.local? path with
  | some value => exact .pure value
  | none =>
      refine Finds.get.bind_ok ?_
      rw [shows.nodes_eq]
      simp only [Option.getD_none, MemoryStores.valueAt]
      cases resolved : (Namespace.ofTable held.nodes).resolveField path with
      | ok address =>
          obtain ⟨registered, kind, -⟩ := Namespace.of_resolveField resolved
          exact (Finds.record shows registered kind).bind_ok (.pure _)
      | error e =>
          simp only [Namespace.isRefusal_resolveField _ path e resolved, if_true]
          exact .pure _

theorem finds_judge (filters : Filters) (candidate : Candidate) :
    Finds library held (filters.evaluate (operand candidate))
      (held.judge (some filters) candidate) :=
  Finds.evaluate_items (finds_operand shows candidate) filters.items

theorem finds_gather (path : String) :
    Finds library held (gather path)
      (((Namespace.ofTable held.nodes).resolve path).map fun _ => held.candidates path) := by
  have listed : Finds library held (liftM (resolving fun nodes => shelvesUnder nodes path))
      (((Namespace.ofTable held.nodes).resolve path).map fun _ => held.shelvesWithin path) := by
    rw [← MemoryStores.shelvesUnder_eq shows.tree]
    exact finds_resolving shows
  cases resolved : (Namespace.ofTable held.nodes).resolve path with
  | error e =>
      rw [resolved] at listed
      exact listed.bind_error
  | ok entry =>
      rw [resolved] at listed
      refine listed.bind_ok (.mapM fun node member => ?_)
      obtain ⟨registered, kind, -⟩ := (MemoryStores.mem_shelvesWithin shows.tree.sorted).mp member
      exact (Finds.record shows registered kind).bind_ok (.pure _)

theorem finds_selectBy (filters : Filters) (candidates : List Candidate) :
    Finds library held (selectBy filters candidates)
      (held.selection (some filters) id candidates) := by
  induction candidates with
  | nil => exact .pure _
  | cons candidate rest ih =>
      rw [MemoryStores.selection_cons]
      exact (finds_judge shows filters candidate).bind fun keep _ => ih.map _

theorem finds_select (filters : Option Filters) (candidates : List Candidate) :
    Finds library held (select filters candidates) (held.selection filters id candidates) := by
  cases filters with
  | none =>
      rw [MemoryStores.selection_none]
      exact .pure _
  | some filters => exact finds_selectBy shows filters candidates

/-- The candidates for a query of a path with a filter. -/
theorem finds_find (path : String) (filters : Option Filters) :
    Finds library held (find path filters)
      ((Namespace.ofTable held.nodes).resolve path >>= fun _ =>
        held.selection filters id (held.candidates path)) := by
  have gathers := finds_gather shows path
  cases resolved : (Namespace.ofTable held.nodes).resolve path with
  | error e =>
      rw [resolved] at gathers
      exact gathers.bind_error
  | ok entry =>
      rw [resolved] at gathers
      exact gathers.bind_ok (finds_select shows filters _)

end Library

end ShelfLibrary
