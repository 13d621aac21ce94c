import ShelfLibrary.Library.Checkout
import ShelfLibrary.Proofs.Session

/-!
# What queries read

The candidates of a query are different shelves at or under its path, and filters, operands and
checkouts only read.
-/

namespace ShelfLibrary

open Session

variable {α : Type} {library : Library} {held : MemoryStores} {mayBecome : String → Record → Prop}

/-! ## Filters -/

section Filters

variable {resolve : String → Session.Task Value}

theorem prepares_resolveOperand
    (reads : ∀ path, Prepares library held mayBecome (resolve path) fun _ => True)
    (operand : Value) (isPath : Bool) :
    Prepares library held mayBecome (resolveOperand resolve operand isPath) fun _ => True := by
  unfold resolveOperand
  split
  · split
    · exact reads _
    · exact .pure trivial
  · exact .pure trivial

theorem Condition.prepares_evaluate
    (reads : ∀ path, Prepares library held mayBecome (resolve path) fun _ => True)
    (condition : Condition) :
    Prepares library held mayBecome (condition.evaluate resolve) fun _ => True := by
  unfold evaluate
  refine (prepares_resolveOperand reads _ _).bind fun left _ => ?_
  refine (prepares_resolveOperand reads _ _).bind fun right _ => ?_
  split
  · exact .pure trivial
  · exact .throw rfl

namespace FilterItem

mutual

theorem prepares_evaluate
    (reads : ∀ path, Prepares library held mayBecome (resolve path) fun _ => True)
    (item : FilterItem) :
    Prepares library held mayBecome (item.evaluate resolve) fun _ => True := by
  cases item with
  | condition leaf => exact Condition.prepares_evaluate reads leaf
  | group items => exact prepares_evaluateItems reads items
  | connective joint => exact .throw rfl

theorem prepares_evaluateItems
    (reads : ∀ path, Prepares library held mayBecome (resolve path) fun _ => True)
    (items : List FilterItem) :
    Prepares library held mayBecome (evaluateItems resolve items) fun _ => True := by
  cases items with
  | nil => exact .pure trivial
  | cons first rest =>
      unfold evaluateItems
      refine (prepares_evaluate reads first).bind fun result _ => ?_
      exact prepares_evaluateRest reads result rest

theorem prepares_evaluateRest
    (reads : ∀ path, Prepares library held mayBecome (resolve path) fun _ => True)
    (result : Bool) (items : List FilterItem) :
    Prepares library held mayBecome (evaluateRest resolve result items) fun _ => True := by
  match items with
  | [] => exact .pure trivial
  | .connective joint :: operand :: rest =>
      unfold evaluateRest
      split
      · exact prepares_evaluateRest reads result rest
      · refine (prepares_evaluate reads operand).bind fun right _ => ?_
        exact prepares_evaluateRest reads (joint.apply result right) rest
  | [.connective _] => exact .throw rfl
  | .condition _ :: _ => exact .throw rfl
  | .group _ :: _ => exact .throw rfl

end

end FilterItem

theorem Filters.prepares_evaluate
    (reads : ∀ path, Prepares library held mayBecome (resolve path) fun _ => True)
    (filters : Filters) :
    Prepares library held mayBecome (filters.evaluate resolve) fun _ => True :=
  FilterItem.prepares_evaluateItems reads filters.items

end Filters

/-! ## Candidates -/

namespace Library

theorem prepares_resolving {find : Namespace → Except LibraryError α}
    (refusal : Result.IsRefusal (find library.nodes)) :
    Prepares library held mayBecome (liftM (resolving find)) fun value =>
      find library.nodes = .ok value :=
  .lift (untouched_of_isMild refusal.isMild)

/-- Different shelves at or under a path. -/
structure AreUnder (nodes : Table Entry) (path : String) (shelves : List Namespace.Node) :
    Prop where
  /-- Each of them is registered. -/
  registered : ∀ node ∈ shelves, Table.get? nodes node.1 = some node.2
  /-- Each of them is a shelf. -/
  kind : ∀ node ∈ shelves, node.2.isShelf = true
  /-- Each of them lies at or under the path. -/
  within : ∀ node ∈ shelves, Path.isWithin node.1 path = true
  /-- No key stands twice. -/
  distinct : (shelves.map Prod.fst).Nodup

theorem AreUnder.sublist {nodes : Table Entry} {path : String} {all some : List Namespace.Node}
    (under : AreUnder nodes path all) (part : some.Sublist all) : AreUnder nodes path some where
  registered node member := under.registered node (part.subset member)
  kind node member := under.kind node (part.subset member)
  within node member := under.within node (part.subset member)
  distinct := under.distinct.sublist (part.map Prod.fst)

theorem areUnder_singleton {nodes : Table Entry} {path : String} {entry : Entry}
    (registered : Table.get? nodes path = some entry) (kind : entry.isShelf = true) :
    AreUnder nodes path [(path, entry)] where
  registered := by simpa using registered
  kind := by simpa using kind
  within := by simp
  distinct := by simp

theorem isRefusal_shelvesUnder (nodes : Namespace) (path : String) :
    Result.IsRefusal (shelvesUnder nodes path) := by
  refine (Namespace.isRefusal_resolve nodes path).bind fun entry => ?_
  split <;> exact Result.isRefusal_ok _

theorem areUnder_of_shelvesUnder {nodes : Table Entry} (sorted : Table.Sorted nodes)
    {path : String} {shelves : List Namespace.Node}
    (found : shelvesUnder (.ofTable nodes) path = .ok shelves) : AreUnder nodes path shelves := by
  obtain ⟨entry, resolved, listed⟩ := Result.bind_eq_ok.mp found
  obtain ⟨-, registered⟩ := Namespace.of_resolve resolved
  split at listed
  · rename_i kind
    obtain rfl : [(path, entry)] = shelves := Except.ok.inj listed
    exact areUnder_singleton registered kind
  · obtain rfl := Except.ok.inj listed
    rw [Namespace.subtree_ofTable sorted]
    have part := (List.filter_sublist (p := fun node : Namespace.Node => node.2.isShelf)).trans
      (List.filter_sublist (p := fun node : Namespace.Node => Path.isWithin node.1 path)
        (l := nodes))
    constructor
    · exact fun node member => Table.get?_of_mem sorted (part.subset member)
    · exact fun node member => (List.mem_filter.mp member).2
    · exact fun node member => (List.mem_filter.mp (List.mem_filter.mp member).1).2
    · exact (Table.nodup_keys sorted).sublist (part.map Prod.fst)

/-- The nodes of candidates. -/
def nodesOf (candidates : List Candidate) : List Namespace.Node :=
  candidates.map fun candidate => (candidate.key, candidate.entry)

section Candidates

variable (shows : library.Shows held)

include shows

theorem prepares_gather (path : String) :
    Prepares library held mayBecome (gather path) fun candidates =>
      AreUnder held.nodes path (nodesOf candidates) := by
  refine (prepares_resolving (isRefusal_shelvesUnder _ path)).bind fun shelves found => ?_
  rw [shows.nodes_eq] at found
  have under := areUnder_of_shelvesUnder shows.tree.sorted found
  have read : ∀ node ∈ shelves, Prepares library held mayBecome (candidateOf path node)
      fun candidate => (candidate.key, candidate.entry) = node := by
    intro node member
    refine (prepares_record shows (under.registered node member) (under.kind node member)).bind ?_
    exact fun record _ => .pure rfl
  refine (Prepares.mapM read).mono fun candidates same => ?_
  have listed : nodesOf candidates = shelves := by
    clear found under read
    induction same with
    | nil => rfl
    | cons first others ih => exact congrArg₂ List.cons first ih
  exact listed ▸ under

theorem prepares_operand (candidate : Candidate) (path : String) :
    Prepares library held mayBecome (operand candidate path) fun _ => True := by
  unfold operand
  split
  · exact .pure trivial
  · refine Prepares.get.bind fun current same => ?_
    subst same
    split
    · rename_i address found
      rw [shows.nodes_eq] at found
      obtain ⟨registered, kind, -⟩ := Namespace.of_resolveField found
      exact (prepares_record shows registered kind).bind fun record _ => .pure trivial
    · rename_i e refused
      split
      · exact .pure trivial
      · exact .throw ((Namespace.isRefusal_resolveField _ path).isMild e refused)

theorem prepares_selectBy (filters : Filters) (candidates : List Candidate) :
    Prepares library held mayBecome (selectBy filters candidates) fun selected =>
      selected.Sublist candidates := by
  induction candidates with
  | nil => exact .pure List.Sublist.slnil
  | cons candidate rest ih =>
      refine (Filters.prepares_evaluate (prepares_operand shows candidate) filters).bind ?_
      refine fun keep _ => ih.bind fun others part => .pure ?_
      cases keep with
      | true => exact part.cons_cons candidate
      | false => exact part.cons candidate

theorem prepares_find (path : String) (filters : Option Filters) :
    Prepares library held mayBecome (find path filters) fun candidates =>
      AreUnder held.nodes path (nodesOf candidates) := by
  refine (prepares_gather shows path).bind fun candidates under => ?_
  cases filters with
  | none => exact .pure under
  | some filters =>
      refine (prepares_selectBy shows filters candidates).mono fun selected part => ?_
      exact under.sublist (part.map _)

/-! ## Checkouts -/

theorem prepares_gatherItems (gathered : List Picked) (items : List CheckOutItem) :
    Prepares library held mayBecome (gatherItems gathered items) fun _ => True := by
  induction items generalizing gathered with
  | nil => exact .pure trivial
  | cons item rest ih =>
      exact (prepares_gather shows item.path).bind fun candidates _ => ih _

theorem prepares_selectPicked (filters : Filters) (all : List Picked) :
    Prepares library held mayBecome (selectPicked filters all) fun _ => True := by
  induction all with
  | nil => exact .pure trivial
  | cons picked rest ih =>
      refine (Filters.prepares_evaluate (prepares_operand shows picked.candidate) filters).bind ?_
      exact fun keep _ => ih.bind fun others _ => .pure trivial

theorem prepares_sortPicked (criteria : List SortItem) (all : List Picked) :
    Prepares library held mayBecome (sortPicked criteria all) fun _ => True := by
  have keys (picked : Picked) :
      Prepares library held mayBecome (sortKeys criteria picked) fun _ => True :=
    (Prepares.mapM fun item _ => prepares_operand shows picked.candidate item.path).mono
      fun _ _ => trivial
  have keyed : ∀ picked ∈ all, Prepares library held mayBecome
      (do return (← sortKeys criteria picked, picked)) fun _ => True :=
    fun picked _ => (keys picked).bind fun values _ => .pure trivial
  exact (Prepares.mapM keyed).bind fun sorted _ => .pure trivial

theorem prepares_readRows (step : CheckOut) :
    Prepares library held mayBecome (readRows step) fun _ => True := by
  let finish (sorted : List Picked) : Session.Task (List Row) :=
    pure ((page step.offset step.limit sorted).map Picked.row)
  have finished (sorted : List Picked) :
      Prepares library held mayBecome (finish sorted) fun _ => True := .pure trivial
  have sorting (selected : List Picked) : Prepares library held mayBecome
      (if step.sort.isEmpty then pure selected >>= finish
        else sortPicked step.sort selected >>= finish) fun _ => True := by
    split
    · exact finished selected
    · exact (prepares_sortPicked shows step.sort selected).bind fun sorted _ => finished sorted
  refine (prepares_gatherItems shows [] step.items).bind fun gathered _ => ?_
  cases step.filters with
  | none => exact sorting gathered
  | some filters =>
      exact (prepares_selectPicked shows filters gathered).bind fun selected _ => sorting selected

end Candidates

end Library

end ShelfLibrary
