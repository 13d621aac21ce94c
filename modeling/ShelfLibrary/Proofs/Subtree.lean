import ShelfLibrary.Proofs.Prediction
import ShelfLibrary.Proofs.Resolution

/-!
# Removing sections

A section is removed with all that lies at or below it, and with nothing else.  What a plan asks of
its stores one call after another tells in which order the nodes are unregistered: each before the
section that it lies in.
-/

namespace ShelfLibrary

variable {σ s t α β : Type} {stores : Stores σ}

/-! ## Subtrees -/

namespace Path

/-- Whether a key lies at or below a path: it is the path, or goes on after it with a dot. -/
def InSubtree (path key : String) : Prop :=
  key = path ∨ ∃ rest, key = path ++ "." ++ rest

theorem inSubtree_iff {path key : String} : InSubtree path key ↔ isWithin key path = true :=
  isWithin_iff.symm

instance (path key : String) : Decidable (InSubtree path key) :=
  decidable_of_iff _ isWithin_iff

/-- The keys of nodes at or below a path, the last ones first: none comes before one below it. -/
theorem pairwise_not_inSubtree {nodes : Table Entry} (sorted : Table.Sorted nodes) (path : String) :
    ((nodes.filter fun node => isWithin node.1 path).reverse.map Prod.fst).Pairwise
      fun earlier later => ¬InSubtree earlier later := by
  rw [List.pairwise_map, List.pairwise_reverse]
  refine (Table.sorted_filter sorted _).imp fun before below => ?_
  exact not_lt_of_isPrefix (isPrefix_of_isWithin (inSubtree_iff.mp below))
    (String.lt_iff_toList_lt.mp before)

end Path

/-! ## What is asked of the stores -/

namespace Plan

/-- The calls that a plan makes of some stores, in order. -/
def calls (stores : Stores σ) : Plan α → σ → List StoreCall
  | .done _, _ => []
  | .call request next, world =>
    request :: (next (stores request world).1).calls stores (stores request world).2

theorem calls_andThen (plan : Plan α) (next : α → Plan β) (world : σ) :
    (plan.andThen next).calls stores world = plan.calls stores world ++
      (next (plan.run stores world).1).calls stores (plan.run stores world).2 := by
  induction plan generalizing world with
  | done result => rfl
  | call request rest ih => simp only [andThen, calls, run, ih, List.cons_append]

end Plan

/-- The key that a call unregisters. -/
def StoreCall.unregistered? : StoreCall → Option String
  | .changeNodes (.remove key) => some key
  | _ => none

namespace Action

variable {state : s} {world : σ} {keys more : List String}

/-- The keys that an action unregisters in some stores, in order. -/
def unregistered (stores : Stores σ) (action : Action s α) (state : s) (world : σ) :
    List String :=
  ((action state).calls stores world).filterMap StoreCall.unregistered?

/-- If an action succeeds, it unregisters some keys in this order. -/
def Unregisters (stores : Stores σ) (action : Action s α) (state : s) (world : σ)
    (keys : List String) : Prop :=
  (action.runOn stores state world).1.isOk = true →
    action.unregistered stores state world = keys

theorem unregisters_ask {request : StoreCall} :
    Unregisters stores (ask request : Action s request.Answer) state world
      request.unregistered?.toList := by
  intro _
  unfold unregistered ask Plan.calls
  cases (stores request world).1 <;>
    cases found : request.unregistered? <;> simp [Plan.calls, found]

theorem unregisters_ofExcept {result : Except LibraryError α} :
    Unregisters stores (ofExcept result : Action s α) state world [] :=
  fun _ => rfl

/-- What is unregistered by work that succeeds and by what follows it. -/
theorem unregistered_bind {action : Action s β} {next : β → Action s α} {value : β} {after : s}
    {last : σ} (reached : action.runOn stores state world = (.ok value, after, last)) :
    (action >>= next).unregistered stores state world =
      action.unregistered stores state world ++ (next value).unregistered stores after last := by
  simp only [unregistered, bind_eq_andThen, Plan.calls_andThen, List.filterMap_append]
  unfold runOn at reached
  generalize (action state).run stores world = ran at reached ⊢
  obtain ⟨⟨result, found⟩, left⟩ := ran
  cases reached
  rfl

theorem Unregisters.bind {action : Action s β} {next : β → Action s α}
    (first : Unregisters stores action state world keys)
    (later : ∀ value, (action.runOn stores state world).1 = .ok value →
      Unregisters stores (next value) (action.runOn stores state world).2.1
        (action.runOn stores state world).2.2 more) :
    Unregisters stores (action >>= next) state world (keys ++ more) := by
  intro succeeds
  rw [runOn_bind] at succeeds
  rcases reached : action.runOn stores state world with ⟨result, after, last⟩
  rw [reached] at succeeds later
  cases result with
  | error e => cases succeeds
  | ok value =>
      rw [unregistered_bind reached, first (by rw [reached]; rfl)]
      exact congrArg (keys ++ ·) (later value rfl succeeds)

/-- Work on a part of the state unregisters the same. -/
theorem Unregisters.on {view : t → s} {put : t → s → t} {action : Action s α} {whole : t}
    (unregisters : Unregisters stores action (view whole) world keys) :
    Unregisters stores (on view put action) whole world keys := by
  intro succeeds
  have same : (Action.on view put action).unregistered stores whole world =
      action.unregistered stores (view whole) world := by
    simp only [unregistered, Action.on, Plan.calls_andThen, List.filterMap_append]
    exact List.append_nil _
  rw [same]
  refine unregisters ?_
  rw [← succeeds]
  simp only [runOn, Action.on, Plan.run_andThen]
  rfl

/-- What is caught where nothing fails unregisters the same. -/
theorem Unregisters.tryCatch {action : Action s α} {handler : LibraryError → Action s α}
    (unregisters : Unregisters stores action state world keys)
    (succeeds : (action.runOn stores state world).1.isOk = true) :
    Unregisters stores (tryCatch action handler) state world keys := by
  intro _
  rw [← unregisters succeeds]
  change List.filterMap _ (((action state).andThen _).calls stores world) = _
  rw [Plan.calls_andThen, List.filterMap_append]
  unfold runOn at succeeds
  rcases run : (action state).run stores world with ⟨⟨result, after⟩, last⟩
  rw [run] at succeeds
  cases result with
  | error e => cases succeeds
  | ok value => exact List.append_nil _

theorem Unregisters.congr {action : Action s α}
    (unregisters : Unregisters stores action state world keys) (same : keys = more) :
    Unregisters stores action state world more :=
  same ▸ unregisters

/-- After what unregisters nothing, the rest tells what is unregistered. -/
theorem Unregisters.after {action : Action s β} {next : β → Action s α}
    (first : Unregisters stores action state world [])
    (later : ∀ value, (action.runOn stores state world).1 = .ok value →
      Unregisters stores (next value) (action.runOn stores state world).2.1
        (action.runOn stores state world).2.2 keys) :
    Unregisters stores (action >>= next) state world keys :=
  first.bind later

theorem unregisters_get : Unregisters stores (get : Action s s) state world [] :=
  fun _ => rfl

theorem unregisters_modify {change : s → s} :
    Unregisters stores (modify change : Action s PUnit) state world [] :=
  fun _ => rfl

theorem unregisters_pure {value : α} :
    Unregisters stores (pure value : Action s α) state world [] :=
  fun _ => rfl

theorem unregisters_throw {e : LibraryError} :
    Unregisters stores (throw e : Action s α) state world keys := by
  rintro ⟨⟩

end Action

/-! ## The order of removals -/

namespace Namespace

variable {nodes : Namespace} {world : σ}

theorem unregisters_verify (operation : String) :
    Action.Unregisters stores (verify operation) nodes world [] := by
  refine Action.unregisters_ask.after fun stored _ => ?_
  refine Action.unregisters_get.after fun _ _ => ?_
  split
  · exact Action.unregisters_pure
  · exact Action.unregisters_throw

theorem unregisters_remove (key : String) :
    Action.Unregisters stores (remove key) nodes world [key] := by
  refine Action.unregisters_get.after fun now _ => ?_
  split
  · exact Action.unregisters_throw
  · change Action.Unregisters stores _ nodes world ([key] ++ [])
    refine Action.Unregisters.bind Action.unregisters_ask fun _ _ => ?_
    refine Action.unregisters_modify.after fun _ _ => ?_
    refine (unregisters_verify "remove").after fun _ _ => ?_
    exact Action.unregisters_pure

end Namespace

namespace Library

variable {library : Library} {held : MemoryStores} {world : σ}

/-- Nodes are unregistered in the order in which they are given. -/
theorem unregisters_deleteNodes (gone : List Namespace.Node) :
    Action.Unregisters stores (deleteNodes gone) library world (gone.map Prod.fst) := by
  induction gone generalizing library world with
  | nil => exact Action.unregisters_pure
  | cons node rest ih =>
      obtain ⟨key, entry⟩ := node
      change Action.Unregisters stores _ library world ([key] ++ rest.map Prod.fst)
      refine (Namespace.unregisters_remove key).on.bind fun _ _ => ?_
      split
      · exact Action.unregisters_ask.after fun _ _ => ih
      · exact ih

/-- A section is unregistered after everything in it, the last keys first. -/
theorem unregisters_deleteSection (path : String) :
    Action.Unregisters stores (deleteSection path) library world
      ((library.nodes.subtree path).reverse.map Prod.fst) := by
  refine Action.unregisters_get.after fun now same => ?_
  obtain rfl : library = now := Except.ok.inj same
  refine ((unregisters_deleteNodes _).bind fun _ _ => ?_).congr (List.append_nil _)
  refine Action.Unregisters.after ?_ fun _ _ => Action.unregisters_pure
  refine Action.unregisters_get.after fun _ _ => ?_
  refine Action.unregisters_ask.after fun _ _ => ?_
  exact Action.unregisters_modify

/-- The removal of a section. -/
def removeSection (path : String) : Operation :=
  .remove ⟨path, none, false, true⟩

theorem unregisters_removeSection (path : String) :
    Action.Unregisters stores (perform (removeSection path)) library world
      ((library.nodes.subtree path).reverse.map Prod.fst) := by
  refine Action.Unregisters.after ?_ fun _ _ => ?_
  · exact Action.unregisters_get.after fun _ _ => Action.unregisters_ofExcept
  · refine ((unregisters_deleteSection path).bind fun _ _ => ?_).congr (List.append_nil _)
    exact Action.unregisters_pure

theorem unregisters_execute (usable : library.isPoisoned = false) {operation : Operation}
    {keys : List String}
    (unregisters : Action.Unregisters stores (perform operation) library world keys)
    (succeeds : ((perform operation).runOn stores library world).1.isOk = true) :
    Action.Unregisters stores (execute (.single operation)) library world keys := by
  refine Action.unregisters_get.after fun now same => ?_
  obtain rfl : library = now := Except.ok.inj same
  rw [usable]
  exact unregisters.tryCatch succeeds

/-! ## What is lost -/

/-- Everything at or below a path has been removed, and nothing else has changed. -/
structure LosesSubtree (path : String) (before : Library) (held : MemoryStores) (after : Library)
    (held' : MemoryStores) : Prop where
  /-- The library shows what is left in the stores, and stays in use. -/
  mirrors : after.Mirrors held'
  /-- The nodes at or below the path are gone. -/
  nodes : ∀ key, Table.get? held'.nodes key =
    if Path.InSubtree path key then none else Table.get? held.nodes key
  /-- The notes on the sections at or below the path are gone. -/
  sections : ∀ key, Table.get? after.catalog.sections key =
    if Path.InSubtree path key then none else Table.get? before.catalog.sections key
  /-- The schema of the root stays. -/
  rootSchema_eq : after.catalog.rootSchema = before.catalog.rootSchema
  /-- The contents of the shelves at or below the path are gone; the others stay. -/
  shelves : ∀ key entry, Table.get? held.nodes key = some entry → entry.isShelf = true →
    Table.get? held'.shelves (Location.placeOf key) =
      if Path.InSubtree path key then none else Table.get? held.shelves (Location.placeOf key)
  /-- Nothing is stored that has not been before. -/
  kept : ∀ place contents, Table.get? held'.shelves place = some contents →
    Table.get? held.shelves place = some contents

theorem losesSubtree (mirrors : library.Mirrors held) {path : String}
    {gone : List Namespace.Node}
    (whole : ∀ node, node ∈ gone ↔ node ∈ held.nodes ∧ Path.isWithin node.1 path = true) :
    LosesSubtree path library held
      { library with
        nodes := .ofTable (Table.eraseAll held.nodes (gone.map Prod.fst))
        catalog := library.catalog.removeSubtree path }
      { nodes := Table.eraseAll held.nodes (gone.map Prod.fst)
        shelves := Table.eraseAll held.shelves (Location.placesOf gone)
        catalog := some (library.catalog.removeSubtree path) } := by
  have tree := mirrors.consistent.tree
  have registered : ∀ node ∈ gone, Table.get? held.nodes node.1 = some node.2 :=
    fun node member => Table.get?_of_mem tree.sorted ((whole node).mp member).1
  have listed {key : String} {entry : Entry} (found : Table.get? held.nodes key = some entry) :
      key ∈ gone.map Prod.fst ↔ Path.InSubtree path key := by
    rw [Path.inSubtree_iff]
    constructor
    · intro there
      obtain ⟨node, member, rfl⟩ := List.mem_map.mp there
      exact ((whole node).mp member).2
    · intro within
      exact List.mem_map_of_mem ((whole (key, entry)).mpr ⟨Table.mem_of_get? found, within⟩)
  constructor
  case mirrors => exact mirrors.remove_subtree whole
  case nodes =>
    intro key
    rw [Table.get?_eraseAll]
    cases found : Table.get? held.nodes key with
    | none => simp
    | some entry => simp only [listed found]
  case sections =>
    intro key
    rw [Catalog.removeSubtree,
      Table.get?_filter_keys library.catalog.sections fun name => !Path.isWithin name path]
    cases within : Path.isWithin key path <;> simp [Path.inSubtree_iff, within]
  case rootSchema_eq => rfl
  case shelves =>
    intro key entry found kind
    rw [Table.get?_eraseAll]
    simp only [tree.placeOf_mem_placesOf registered found kind, listed found]
  case kept =>
    intro place contents stored
    exact (Table.get?_eraseAll_eq_some.mp stored).1

variable {view : σ → MemoryStores}

/-- The removal of a registered section comes to the loss of its subtree. -/
theorem attains_removeSection (mirrors : library.Mirrors held) {path : String} {entry : Entry}
    (found : Table.get? held.nodes path = some entry) (kind : entry.isSection = true) :
    Action.Attains (perform (removeSection path)) library held fun result library' held' =>
      result = .ok (.removed (library.nodes.subtree path).reverse.length) ∧
        LosesSubtree path library held library' held' := by
  have tree := mirrors.consistent.tree
  have resolved : library.nodes.resolveSection path = .ok entry := by
    rw [mirrors.nodes_eq]
    exact tree.resolveSection_eq_ok.mpr ⟨found, kind⟩
  refine Action.ends_bind.mpr ?_
  simp only [resolving, Action.ends_bind, Action.ends_get, Action.ends_ofExcept, resolved]
  refine attains_deleteSection mirrors path
    fun gone same => ⟨?_, losesSubtree mirrors fun node => ?_⟩
  · rw [mirrors.nodes_eq, Namespace.subtree_ofTable tree.sorted, same]
  · rw [same, List.mem_reverse, List.mem_filter]

/-- The removal of a registered section succeeds and counts the nodes at or below its path.  It
unregisters these nodes, each before the section that it lies in, and forgets the notes on the
sections and the contents of the shelves among them; nothing else changes. -/
theorem removeSection_loses (faithful : stores.AreFaithful view)
    (mirrors : library.Mirrors (view world)) {path : String} {entry : Entry}
    (found : Table.get? (view world).nodes path = some entry) (kind : entry.isSection = true) :
    let removal := execute (.single (removeSection path))
    let after := removal.runOn stores library world
    let gone := removal.unregistered stores library world
    after.1 = .ok (.removed gone.length) ∧
      (∀ key, key ∈ gone ↔
        (∃ entry, Table.get? (view world).nodes key = some entry) ∧ Path.InSubtree path key) ∧
      gone.Pairwise (fun earlier later => ¬Path.InSubtree earlier later) ∧
      LosesSubtree path library (view world) after.2.1 (view after.2.2) := by
  intro removal after gone
  have sorted := mirrors.consistent.nodes_sorted
  have ends := attains_removeSection mirrors found kind
  obtain ⟨done, lost⟩ := ends.runOn
  have same : Prod.map id (Prod.map id view) after =
      (perform (removeSection path)).runOn MemoryStores.answer library (view world) :=
    runOn_execute faithful mirrors (removeSection path)
  rw [← same] at done lost
  -- What is unregistered is told by the calls, which are made by the operation inside the query.
  have performed := (Action.runOn_of_follow faithful rfl ends).1
  rw [ends.runOn.1] at performed
  have order : gone = (library.nodes.subtree path).reverse.map Prod.fst := by
    refine unregisters_execute mirrors.usable (unregisters_removeSection path) ?_ ?_
    · rw [performed]
      rfl
    · change after.1.isOk = true
      rw [show after.1 = _ from done]
      rfl
  rw [mirrors.nodes_eq, Namespace.subtree_ofTable sorted] at order
  refine ⟨?_, fun key => ?_, order ▸ Path.pairwise_not_inSubtree sorted path, lost⟩
  · rw [order, List.length_map, ← Namespace.subtree_ofTable sorted, ← mirrors.nodes_eq]
    exact done
  · rw [order, List.mem_map, Path.inSubtree_iff]
    constructor
    · rintro ⟨node, member, rfl⟩
      obtain ⟨there, within⟩ := List.mem_filter.mp (List.mem_reverse.mp member)
      exact ⟨⟨node.2, Table.get?_of_mem sorted there⟩, within⟩
    · rintro ⟨⟨entry, there⟩, within⟩
      exact ⟨(key, entry),
        List.mem_reverse.mpr (List.mem_filter.mpr ⟨Table.mem_of_get? there, within⟩), rfl⟩

/-- How a library came about with a section and two shelves whose names merely begin alike. -/
private def siblings : List Query :=
  [.single (.buildSection ⟨none, "p", none, none⟩),
    .single (.buildSection ⟨some "p", "x", none, none⟩),
    .single (.buildShelf ⟨some "p.x", "y", none, none⟩),
    .single (.buildShelf ⟨none, "p0", none, none⟩),
    .single (.buildShelf ⟨none, "p_x", none, none⟩)]

/-- The section is removed with the section and the shelf in it, and the two shelves stay. -/
theorem removeSection_loses_siblings :
    let reached := runAll MemoryStores.answer (.empty, .empty) siblings
    let removal := execute (.single (removeSection "p"))
    Stores.AreFaithful MemoryStores.answer id ∧ reached.1.Mirrors reached.2 ∧
      Table.get? reached.2.nodes "p" = some (.ofSection "p") ∧
      removal.unregistered MemoryStores.answer reached.1 reached.2 = ["p.x.y", "p.x", "p"] ∧
      ∃ library held, removal.runOn MemoryStores.answer reached.1 reached.2 =
          (.ok (.removed 3), library, held) ∧
        LosesSubtree "p" reached.1 reached.2 library held ∧
          Table.keys held.nodes = ["p0", "p_x"] ∧ Table.keys held.shelves = ["p0", "p_x"] := by
  intro reached removal
  have faithful := Stores.areFaithful_memory
  have mirrors : reached.1.Mirrors reached.2 := Mirrors.runAll faithful mirrors_empty siblings
  have registered : Table.get? reached.2.nodes "p" = some (.ofSection "p") := by decide +kernel
  have order : removal.unregistered MemoryStores.answer reached.1 reached.2 =
      ["p.x.y", "p.x", "p"] := by decide +kernel
  have left : Table.keys (removal.runOn MemoryStores.answer reached.1 reached.2).2.2.nodes =
      ["p0", "p_x"] := by decide +kernel
  have stored : Table.keys (removal.runOn MemoryStores.answer reached.1 reached.2).2.2.shelves =
      ["p0", "p_x"] := by decide +kernel
  obtain ⟨counted, -, -, lost⟩ := removeSection_loses faithful mirrors registered rfl
  change (removal.runOn MemoryStores.answer reached.1 reached.2).1 = .ok (.removed
    (removal.unregistered MemoryStores.answer reached.1 reached.2).length) at counted
  rw [order] at counted
  rw [id_eq, id_eq] at lost
  refine ⟨faithful, mirrors, registered, order, ?_⟩
  generalize removal.runOn MemoryStores.answer reached.1 reached.2 = ran
    at counted lost left stored ⊢
  obtain ⟨result, library, held⟩ := ran
  obtain rfl : result = .ok (.removed 3) := counted
  exact ⟨library, held, rfl, lost, left, stored⟩

end Library

end ShelfLibrary
