import ShelfLibrary.Proofs.Faults

/-!
# Registered nodes as a finite map

The stores keep a table of nodes; a change of it is made as it stands or refused without effect, and
the number of nodes is told right.  Whatever operations are carried out over such stores, and
whichever of them are refused, the keys and the entries in memory are those of the stored table, and
each operation does to them what it does to a finite map.
-/

namespace ShelfLibrary

/-- Stores that keep a table of nodes: they read it or refuse to, change it as a change says or
refuse to, tell its size, and leave it as it is when they compact it.  A relation says what they
hold. -/
structure Stores.KeepNodes {σ : Type} (stores : Stores σ) (holds : σ → Table Entry → Prop) :
    Prop where
  /-- The table is read, or reading is refused. -/
  load : ∀ world table, holds world table →
    holds (stores .loadNodes world).2 table ∧
      ((stores .loadNodes world).1 = .ok table ∨
        ∃ cause, (stores .loadNodes world).1 = .error cause)
  /-- The table is changed, or the change is refused without effect. -/
  change : ∀ world table delta, holds world table →
    ((∃ cause, (stores (.changeNodes delta) world).1 = .error cause) ∧
        holds (stores (.changeNodes delta) world).2 table) ∨
      ∃ next, delta.apply table = .ok next ∧ (stores (.changeNodes delta) world).1 = .ok () ∧
        holds (stores (.changeNodes delta) world).2 next
  /-- The size is that of the table. -/
  count : ∀ world table, holds world table →
    (stores .countNodes world).1 = .ok table.length ∧ holds (stores .countNodes world).2 table
  /-- The table is the same once it has been compacted. -/
  compact : ∀ world table, holds world table → holds (stores .compactNodes world).2 table

/-- Stores that answer as stores in memory do, or refuse, keep a table of nodes. -/
theorem Stores.AreFallible.keepNodes {σ : Type} {stores : Stores σ}
    {holds : σ → MemoryStores → Prop} (fallible : stores.AreFallible holds) :
    stores.KeepNodes fun world table => ∃ held, holds world held ∧ held.nodes = table where
  load := by
    rintro world _ ⟨held, start, rfl⟩
    rcases fallible .loadNodes world held start with ⟨same, after⟩ | ⟨-, refused, after⟩
    · exact ⟨⟨held, after, rfl⟩, .inl same⟩
    · exact ⟨⟨held, after, rfl⟩, .inr refused⟩
  change := by
    rintro world _ delta ⟨held, start, rfl⟩
    rcases fallible (.changeNodes delta) world held start with ⟨same, after⟩ | ⟨-, refused, after⟩
    · rw [MemoryStores.answer] at same after
      cases applied : delta.apply held.nodes with
      | ok next =>
          rw [applied] at same after
          exact .inr ⟨next, rfl, same, _, after, rfl⟩
      | error cause =>
          rw [applied] at same after
          exact .inl ⟨⟨cause, same⟩, held, after, rfl⟩
    · exact .inl ⟨refused, held, after, rfl⟩
  count := by
    rintro world _ ⟨held, start, rfl⟩
    rcases fallible .countNodes world held start with ⟨same, after⟩ | ⟨different, -⟩
    · exact ⟨same, held, after, rfl⟩
    · exact absurd rfl different
  compact := by
    rintro world _ ⟨held, start, rfl⟩
    rcases fallible .compactNodes world held start with ⟨-, after⟩ | ⟨-, -, after⟩ <;>
      exact ⟨held, after, rfl⟩

namespace Namespace

variable {σ : Type} {stores : Stores σ} {holds : σ → Table Entry → Prop} {nodes after : Namespace}
  {world : σ} {table : Table Entry} {key : String} {entry : Entry}

/-! ## Memory and stores -/

/-- The keys and the entries in memory are those of a table of nodes in key order. -/
structure Agrees (nodes : Namespace) (table : Table Entry) : Prop where
  /-- The keys are those of the table, in its order. -/
  keys_eq : nodes.keys = Table.mapValues (fun _ => ()) table
  /-- Each key has the entry that it has in the table. -/
  entries_eq : nodes.entries = table
  /-- The table is in key order. -/
  sorted : Table.Sorted table

theorem agrees_ofTable (sorted : Table.Sorted table) : (ofTable table).Agrees table :=
  ⟨rfl, rfl, sorted⟩

theorem Agrees.eq_ofTable (agrees : nodes.Agrees table) : nodes = ofTable table := by
  obtain ⟨keys, entries⟩ := nodes
  exact congrArg₂ Namespace.mk agrees.keys_eq agrees.entries_eq

theorem Agrees.insert (agrees : nodes.Agrees table) (key : String) (entry : Entry) :
    (nodes.insert key entry).Agrees (Table.insert table key entry) := by
  rw [agrees.eq_ofTable, ofTable_insert]
  exact agrees_ofTable (Table.sorted_insert agrees.sorted key entry)

theorem Agrees.erase (agrees : nodes.Agrees table) (key : String) :
    (nodes.erase key).Agrees (Table.erase table key) := by
  rw [agrees.eq_ofTable, ofTable_erase]
  exact agrees_ofTable (Table.sorted_erase agrees.sorted key)

/-- The keys stay the same where an entry is replaced. -/
theorem Agrees.replace (agrees : nodes.Agrees table) (there : Table.get? table key ≠ none)
    (entry : Entry) : (nodes.replace key entry).Agrees (Table.insert table key entry) := by
  have sorted := Table.sorted_insert agrees.sorted key entry
  refine ⟨agrees.keys_eq.trans (Table.ext_of_sorted ?_ ?_ fun other => ?_),
    by rw [Namespace.replace, agrees.entries_eq], sorted⟩
  · exact List.pairwise_map.mpr agrees.sorted
  · exact List.pairwise_map.mpr sorted
  · rw [Table.get?_mapValues, Table.get?_mapValues, Table.get?_insert]
    split
    · rename_i alike
      obtain ⟨found, registered⟩ := Option.ne_none_iff_exists'.mp there
      rw [← alike, registered]
      rfl
    · rfl

/-- Nodes that show the same are the same, and so are the tables that they agree with. -/
theorem Agrees.unique {stored : Table Entry} (agrees : nodes.Agrees table)
    (also : after.Agrees stored) (same : after.get? = nodes.get?) :
    after = nodes ∧ stored = table := by
  have alike : stored = table := by
    refine Table.ext_of_sorted also.sorted agrees.sorted fun key => ?_
    rw [← also.entries_eq, ← agrees.entries_eq]
    exact congrFun same key
  subst alike
  exact ⟨also.eq_ofTable.trans agrees.eq_ofTable.symm, rfl⟩

theorem get?_insert (nodes : Namespace) (key : String) (entry : Entry) :
    (nodes.insert key entry).get? = Function.update nodes.get? key (some entry) := by
  funext other
  simp only [get?, insert, Table.get?_insert, Function.update_apply, eq_comm (a := key)]

theorem get?_replace (nodes : Namespace) (key : String) (entry : Entry) :
    (nodes.replace key entry).get? = Function.update nodes.get? key (some entry) := by
  funext other
  simp only [get?, replace, Table.get?_insert, Function.update_apply, eq_comm (a := key)]

theorem get?_erase (nodes : Namespace) (key : String) :
    (nodes.erase key).get? = Function.update nodes.get? key none := by
  funext other
  simp only [get?, erase, Table.get?_erase, Function.update_apply, eq_comm (a := key)]

/-! ## Steps -/

/-- An action on the nodes comes to an end of some kind, whatever the stores refuse. -/
abbrev Comes {α : Type} (stores : Stores σ) (action : Action Namespace α) (nodes : Namespace)
    (world : σ) (goal : Except LibraryError α → Namespace → σ → Prop) : Prop :=
  Action.Ends stores (fun _ _ => True) action nodes world goal

section

variable {goal : Except LibraryError Unit → Namespace → σ → Prop}

theorem comes_change (keep : stores.KeepNodes holds) (held : holds world table) {delta : Delta}
    (refused : ∀ cause world, holds world table → goal (.error (.storage cause)) nodes world)
    (changed : ∀ world, delta.check table = .ok () → holds world (delta.applyTo table) →
      goal (.ok ()) nodes world) :
    Comes stores (Action.ask (.changeNodes delta)) nodes world goal := by
  refine Action.ends_ask.mpr ⟨trivial, ?_⟩
  rcases keep.change world table delta held
    with ⟨⟨cause, reply⟩, after⟩ | ⟨next, fits, reply, after⟩
  · rw [reply]
    exact refused cause _ after
  · obtain ⟨_, checked, same⟩ := Result.bind_eq_ok.mp fits
    obtain rfl := Except.ok.inj same
    rw [reply]
    exact changed _ checked after

theorem comes_verify (keep : stores.KeepNodes holds) (agrees : nodes.Agrees table)
    (held : holds world table) {operation : String}
    (next : ∀ world, holds world table → goal (.ok ()) nodes world) :
    Comes stores (verify operation) nodes world goal := by
  obtain ⟨counted, after⟩ := keep.count world table held
  refine Action.ends_bind.mpr (Action.ends_ask.mpr ⟨trivial, ?_⟩)
  rw [counted]
  have size : nodes.size = table.length := by rw [agrees.eq_ofTable, size_ofTable]
  simpa [size, agrees.entries_eq] using next _ after

/-- Nodes are put one after another, up to the first that is refused. -/
theorem comes_putAll (keep : stores.KeepNodes holds) (agrees : nodes.Agrees table)
    (held : holds world table) {saved : List Node}
    (finished : ∀ after world, after.Agrees (Table.overwrite table saved) →
      holds world (Table.overwrite table saved) → goal (.ok ()) after world)
    (stopped : ∀ front cause after world, front <+: saved →
      after.Agrees (Table.overwrite table front) → holds world (Table.overwrite table front) →
        goal (.error (.storage cause)) after world) :
    Comes stores (putAll saved) nodes world goal := by
  induction saved generalizing nodes table world with
  | nil => exact finished nodes world agrees held
  | cons node rest ih =>
      obtain ⟨key, entry⟩ := node
      refine Action.ends_bind.mpr (comes_change keep held (fun cause world same => ?_)
        fun world _ grown => ?_)
      · exact stopped [] cause nodes world (List.nil_prefix) agrees same
      · refine ih (agrees.insert key entry) grown finished fun front cause after world part => ?_
        exact stopped ((key, entry) :: front) cause after world
          (List.cons_prefix_cons.mpr ⟨rfl, part⟩)

theorem comes_load (keep : stores.KeepNodes holds) (sorted : Table.Sorted table)
    (held : holds world table)
    (refused : ∀ cause world, holds world table → goal (.error (.storage cause)) nodes world)
    (loaded : ∀ after world, after.Agrees table → holds world table → goal (.ok ()) after world) :
    Comes stores load nodes world goal := by
  obtain ⟨same, read | ⟨cause, unread⟩⟩ := keep.load world table held
  · refine Action.ends_bind.mpr (Action.ends_ask.mpr ⟨trivial, ?_⟩)
    rw [read]
    have agrees := agrees_ofTable sorted
    exact Action.ends_bind.mpr (Action.ends_set.mpr
      (comes_verify keep agrees same fun world same => loaded _ world agrees same))
  · refine Action.ends_bind.mpr (Action.ends_ask.mpr ⟨trivial, ?_⟩)
    rw [unread]
    exact refused cause _ same

/-- All nodes are replaced, or the stores refuse to clear them, or they refuse one of the others. -/
theorem comes_restore (keep : stores.KeepNodes holds) (held : holds world table)
    {saved : Table Entry} (sorted : Table.Sorted saved)
    (refused : ∀ cause world, holds world table → goal (.error (.storage cause)) nodes world)
    (stopped : ∀ front cause after world, front <+: saved → after.Agrees front →
      holds world front → goal (.error (.storage cause)) after world)
    (restored : ∀ after world, after.Agrees saved → holds world saved → goal (.ok ()) after world) :
    Comes stores (restore saved) nodes world goal := by
  have none : empty.Agrees [] := ⟨rfl, rfl, Table.sorted_nil⟩
  have anew {part : Table Entry} (sorted : Table.Sorted part) : Table.overwrite [] part = part :=
    Table.ofEntries_of_sorted sorted
  refine Action.ends_bind.mpr (comes_change keep held refused fun world _ cleared => ?_)
  refine Action.ends_bind.mpr (Action.ends_set.mpr (Action.ends_bind.mpr
    (comes_putAll keep none cleared (fun after world whole same => ?_)
      fun front cause after world part some same => ?_)))
  · rw [anew sorted] at whole same
    exact comes_verify keep whole same fun world same => restored after world whole same
  · rw [anew (List.Pairwise.sublist part.sublist sorted)] at some same
    exact stopped front cause after world part some same

end

end Namespace

/-! ## Operations -/

/-- An operation on the nodes of an open library. -/
inductive NodeOperation where
  /-- Reads all nodes from the stores. -/
  | load
  /-- Registers a node under a new key. -/
  | add (key : String) (entry : Entry)
  /-- Looks up the entry of a key. -/
  | get (key : String)
  /-- Replaces the entry of a key. -/
  | update (key : String) (entry : Entry)
  /-- Removes a node. -/
  | remove (key : String)
  /-- Saves all nodes. -/
  | save
  /-- Replaces all nodes by those that have been saved. -/
  | restore (saved : Table Entry) (sorted : Table.Sorted saved)
  /-- Lets the stores rewrite what the nodes are stored in. -/
  | compact

/-- What an operation on the nodes gives back. -/
inductive NodeAnswer where
  /-- It has been done. -/
  | done
  /-- The entry of a key. -/
  | entry (entry : Entry)
  /-- The nodes that have been saved. -/
  | saved (nodes : Table Entry)

namespace NodeOperation

/-- Carries an operation out. -/
def perform : NodeOperation → Action Namespace NodeAnswer
  | .load => do
    Namespace.load
    return .done
  | .add key entry => do
    Namespace.add key entry
    return .done
  | .get key => do
    let nodes ← MonadState.get
    return .entry (← Action.ofExcept ((nodes.entryOf key).mapError .resolution))
  | .update key entry => do
    Namespace.update key entry
    return .done
  | .remove key => do
    return .entry (← Namespace.remove key)
  | .save => do
    return .saved (← MonadState.get).toTable
  | .restore saved _ => do
    Namespace.restore saved
    return .done
  | .compact => do
    Namespace.compact
    return .done

/-- Whether an operation replaces all nodes. -/
def isRestore : NodeOperation → Bool
  | .restore _ _ => true
  | _ => false

/-- The key that has to be registered for an operation. -/
def needed? : NodeOperation → Option String
  | .get key => some key
  | .update key _ => some key
  | .remove key => some key
  | _ => none

/-- Whether an operation is one that a finite map allows, and the stores are asked for it. -/
def Asks (map : String → Option Entry) : NodeOperation → Prop
  | .add key _ => Path.isValid key = true ∧ map key = none
  | .update key _ => map key ≠ none
  | .remove key => map key ≠ none
  | .get _ => False
  | .save => False
  | _ => True

/-- What an operation comes to on a finite map from keys to entries, over stores that may refuse
what they are asked for. -/
inductive ComesTo (map : String → Option Entry) :
    NodeOperation → Except LibraryError NodeAnswer → (String → Option Entry) → Prop
  /-- The map has been read again. -/
  | loaded : ComesTo map .load (.ok .done) map
  /-- What is no path is no key. -/
  | invalid {key : String} {entry : Entry} (invalid : Path.isValid key = false) :
      ComesTo map (.add key entry) (.error (.validation (.invalidPath key))) map
  /-- A key is registered once. -/
  | duplicate {key : String} {entry found : Entry} (valid : Path.isValid key = true)
      (there : map key = some found) :
      ComesTo map (.add key entry) (.error (.resolution (.duplicate key))) map
  /-- A new key has been given an entry. -/
  | added {key : String} {entry : Entry} (valid : Path.isValid key = true)
      (free : map key = none) :
      ComesTo map (.add key entry) (.ok .done) (Function.update map key (some entry))
  /-- A key that is needed is not registered. -/
  | absent {operation : NodeOperation} {key : String} (needed : operation.needed? = some key)
      (absent : map key = none) :
      ComesTo map operation (.error (.resolution (.notFound key))) map
  /-- The entry of a key has been found. -/
  | got {key : String} {found : Entry} (there : map key = some found) :
      ComesTo map (.get key) (.ok (.entry found)) map
  /-- A key has been given another entry. -/
  | updated {key : String} {entry found : Entry} (there : map key = some found) :
      ComesTo map (.update key entry) (.ok .done) (Function.update map key (some entry))
  /-- A key has lost its entry, which is given back. -/
  | removed {key : String} {found : Entry} (there : map key = some found) :
      ComesTo map (.remove key) (.ok (.entry found)) (Function.update map key none)
  /-- The map has been saved. -/
  | saved {nodes : Table Entry} (sorted : Table.Sorted nodes) (same : Table.get? nodes = map) :
      ComesTo map .save (.ok (.saved nodes)) map
  /-- The map is what has been saved. -/
  | restored {nodes : Table Entry} {sorted : Table.Sorted nodes} :
      ComesTo map (.restore nodes sorted) (.ok .done) (Table.get? nodes)
  /-- The stores have refused a node, after some of those that have been saved. -/
  | interrupted {nodes front : Table Entry} {sorted : Table.Sorted nodes} {cause : StorageError}
      (part : front <+: nodes) :
      ComesTo map (.restore nodes sorted) (.error (.storage cause)) (Table.get? front)
  /-- The map is stored anew. -/
  | compacted : ComesTo map .compact (.ok .done) map
  /-- The stores have refused what they were asked for, and the map is as it was. -/
  | refused {operation : NodeOperation} {cause : StorageError} (asked : operation.Asks map) :
      ComesTo map operation (.error (.storage cause)) map

variable {σ : Type} {stores : Stores σ} {holds : σ → Table Entry → Prop} {nodes : Namespace}
  {world : σ} {table : Table Entry}

/-- An end of an operation at which memory and stores agree, and which a finite map comes to. -/
def Refines (holds : σ → Table Entry → Prop) (nodes : Namespace) (operation : NodeOperation)
    (result : Except LibraryError NodeAnswer) (after : Namespace) (world : σ) : Prop :=
  ∃ table, holds world table ∧ after.Agrees table ∧
    operation.ComesTo nodes.get? result after.get?

/-- Nodes that agree with a table find what it holds. -/
theorem get?_eq_of_agrees (agrees : nodes.Agrees table) : nodes.get? = Table.get? table := by
  rw [agrees.eq_ofTable]
  rfl

theorem refines_load (keep : stores.KeepNodes holds) (agrees : nodes.Agrees table)
    (held : holds world table) :
    Namespace.Comes stores (perform .load) nodes world (Refines holds nodes .load) := by
  refine Action.ends_bind.mpr (Namespace.comes_load keep agrees.sorted held (fun cause world same =>
    ⟨table, same, agrees, .refused trivial⟩) fun after world fresh same => ?_)
  obtain rfl : after = nodes := fresh.eq_ofTable.trans agrees.eq_ofTable.symm
  exact ⟨table, same, fresh, .loaded⟩

theorem refines_add (keep : stores.KeepNodes holds) (agrees : nodes.Agrees table)
    (held : holds world table) (key : String) (entry : Entry) :
    Namespace.Comes stores (perform (.add key entry)) nodes world
      (Refines holds nodes (.add key entry)) := by
  refine Action.ends_bind.mpr ?_
  unfold Namespace.add
  cases valid : Path.isValid key with
  | false => exact ⟨table, held, agrees, .invalid valid⟩
  | true =>
      cases there : nodes.get? key with
      | some found =>
          have known : nodes.contains key = true := Table.contains_iff.mpr ⟨found, there⟩
          simp only [Bool.not_true, Bool.false_eq_true, if_false, Action.ends_bind,
            Action.ends_get, known, if_true]
          exact ⟨table, held, agrees, .duplicate valid there⟩
      | none =>
          have unknown : nodes.contains key = false := Table.contains_eq_false_iff.mpr there
          simp only [Bool.not_true, Bool.false_eq_true, if_false, Action.ends_bind,
            Action.ends_get, unknown]
          refine Namespace.comes_change keep held (fun cause world same => ?_)
            fun world _ grown => ?_
          · exact ⟨table, same, agrees, .refused ⟨valid, there⟩⟩
          · have larger := agrees.insert key entry
            refine Action.ends_modify.mpr
              (Namespace.comes_verify keep larger grown fun world same => ?_)
            have added : ComesTo nodes.get? (.add key entry) (.ok .done) _ := .added valid there
            rw [← Namespace.get?_insert] at added
            exact ⟨_, same, larger, added⟩

theorem refines_get (agrees : nodes.Agrees table) (held : holds world table) (key : String) :
    Namespace.Comes stores (perform (.get key)) nodes world (Refines holds nodes (.get key)) := by
  refine Action.ends_bind.mpr (Action.ends_get.mpr (Action.ends_bind.mpr ?_))
  unfold Namespace.entryOf
  cases there : nodes.get? key with
  | some found => exact ⟨table, held, agrees, .got there⟩
  | none => exact ⟨table, held, agrees, .absent rfl there⟩

theorem refines_update (keep : stores.KeepNodes holds) (agrees : nodes.Agrees table)
    (held : holds world table) (key : String) (entry : Entry) :
    Namespace.Comes stores (perform (.update key entry)) nodes world
      (Refines holds nodes (.update key entry)) := by
  refine Action.ends_bind.mpr ?_
  unfold Namespace.update
  cases there : nodes.get? key with
  | none =>
      have unknown : nodes.contains key = false := Table.contains_eq_false_iff.mpr there
      simp only [Action.ends_bind, Action.ends_get, unknown, Bool.not_false, if_true]
      exact ⟨table, held, agrees, .absent rfl there⟩
  | some found =>
      have known : nodes.contains key = true := Table.contains_iff.mpr ⟨found, there⟩
      have registered : nodes.get? key ≠ none := by simp [there]
      simp only [Action.ends_bind, Action.ends_get, known, Bool.not_true, Bool.false_eq_true,
        if_false]
      refine Namespace.comes_change keep held (fun cause world same => ?_) fun world _ changed => ?_
      · exact ⟨table, same, agrees, .refused registered⟩
      · have other := agrees.replace (get?_eq_of_agrees agrees ▸ registered) entry
        refine Action.ends_modify.mpr
          (Namespace.comes_verify keep other changed fun world same => ?_)
        have updated : ComesTo nodes.get? (.update key entry) (.ok .done) _ := .updated there
        rw [← Namespace.get?_replace] at updated
        exact ⟨_, same, other, updated⟩

theorem refines_remove (keep : stores.KeepNodes holds) (agrees : nodes.Agrees table)
    (held : holds world table) (key : String) :
    Namespace.Comes stores (perform (.remove key)) nodes world
      (Refines holds nodes (.remove key)) := by
  refine Action.ends_bind.mpr ?_
  simp only [Namespace.remove, Action.ends_bind, Action.ends_get]
  cases there : nodes.get? key with
  | none => exact ⟨table, held, agrees, .absent rfl there⟩
  | some found =>
      have registered : nodes.get? key ≠ none := by simp [there]
      simp only [Action.ends_bind]
      refine Namespace.comes_change keep held (fun cause world same => ?_) fun world _ changed => ?_
      · exact ⟨table, same, agrees, .refused registered⟩
      · have smaller := agrees.erase key
        refine Action.ends_modify.mpr
          (Namespace.comes_verify keep smaller changed fun world same => ?_)
        have removed : ComesTo nodes.get? (.remove key) (.ok (.entry found)) _ := .removed there
        rw [← Namespace.get?_erase] at removed
        exact ⟨_, same, smaller, removed⟩

theorem refines_save (agrees : nodes.Agrees table) (held : holds world table) :
    Namespace.Comes stores (perform .save) nodes world (Refines holds nodes .save) := by
  have whole : nodes.toTable = table := by
    rw [agrees.eq_ofTable, Namespace.toTable_ofTable agrees.sorted]
  refine ⟨table, held, agrees, ?_⟩
  rw [whole]
  exact .saved agrees.sorted (get?_eq_of_agrees agrees).symm

theorem refines_restore (keep : stores.KeepNodes holds) (agrees : nodes.Agrees table)
    (held : holds world table) (saved : Table Entry) (sorted : Table.Sorted saved) :
    Namespace.Comes stores (perform (.restore saved sorted)) nodes world
      (Refines holds nodes (.restore saved sorted)) := by
  refine Action.ends_bind.mpr (Namespace.comes_restore keep held sorted (fun cause world same =>
    ⟨table, same, agrees, .refused trivial⟩) (fun front cause after world part some same => ?_)
      fun after world whole same => ?_)
  · refine ⟨front, same, some, ?_⟩
    rw [get?_eq_of_agrees some]
    exact .interrupted part
  · refine ⟨saved, same, whole, ?_⟩
    rw [get?_eq_of_agrees whole]
    exact .restored

theorem refines_compact (keep : stores.KeepNodes holds) (agrees : nodes.Agrees table)
    (held : holds world table) :
    Namespace.Comes stores (perform .compact) nodes world (Refines holds nodes .compact) := by
  refine Action.ends_bind.mpr (Action.ends_bind.mpr (Action.ends_ask.mpr ⟨trivial, ?_⟩))
  have after := keep.compact world table held
  cases (stores .compactNodes world).1 with
  | error cause => exact ⟨table, after, agrees, .refused trivial⟩
  | ok _ =>
      exact Namespace.comes_verify keep agrees after fun world same =>
        ⟨table, same, agrees, .compacted⟩

/-- Every operation keeps memory and stores in agreement and refines one on a finite map. -/
theorem refines_perform (keep : stores.KeepNodes holds) (agrees : nodes.Agrees table)
    (held : holds world table) (operation : NodeOperation) :
    Namespace.Comes stores operation.perform nodes world (Refines holds nodes operation) := by
  cases operation with
  | load => exact refines_load keep agrees held
  | add key entry => exact refines_add keep agrees held key entry
  | get key => exact refines_get agrees held key
  | update key entry => exact refines_update keep agrees held key entry
  | remove key => exact refines_remove keep agrees held key
  | save => exact refines_save agrees held
  | restore saved sorted => exact refines_restore keep agrees held saved sorted
  | compact => exact refines_compact keep agrees held

/-- An operation that fails has left the map as it was, unless it was to restore one. -/
theorem ComesTo.map_eq {map next : String → Option Entry} {operation : NodeOperation}
    {e : LibraryError} (comes : operation.ComesTo map (.error e) next)
    (inPlace : operation.isRestore = false) : next = map := by
  cases comes with
  | interrupted part => cases inPlace
  | _ => rfl

/-- No operation finds that memory and stores have diverged. -/
theorem ComesTo.isFatal_eq {map next : String → Option Entry} {operation : NodeOperation}
    {e : LibraryError} (comes : operation.ComesTo map (.error e) next) : e.isFatal = false := by
  cases comes <;> rfl

/-! ## Runs -/

/-- What nodes and stores come to by some operations, whatever the outcome of each. -/
def runAll (stores : Stores σ) (start : Namespace × σ) (operations : List NodeOperation) :
    Namespace × σ :=
  operations.foldl (fun (nodes, world) operation => (operation.perform.runOn stores nodes world).2)
    start

/-- Memory and stores agree after any operations, as they did before. -/
theorem exists_agrees_runAll (keep : stores.KeepNodes holds) (agrees : nodes.Agrees table)
    (held : holds world table) (operations : List NodeOperation) :
    ∃ table, holds (runAll stores (nodes, world) operations).2 table ∧
      (runAll stores (nodes, world) operations).1.Agrees table := by
  induction operations generalizing nodes world table with
  | nil => exact ⟨table, held, agrees⟩
  | cons operation rest ih =>
      obtain ⟨next, after, still, -⟩ := (refines_perform keep agrees held operation).runOn
      exact ih still after

/-- An operation that fails has found no divergence, and has left everything as it was unless it was
to restore nodes. -/
theorem unchanged_of_error (keep : stores.KeepNodes holds) (agrees : nodes.Agrees table)
    (held : holds world table) (operation : NodeOperation) {e : LibraryError}
    (failed : (operation.perform.runOn stores nodes world).1 = .error e) :
    e.isFatal = false ∧ (operation.isRestore = false →
      (operation.perform.runOn stores nodes world).2.1 = nodes ∧
        holds (operation.perform.runOn stores nodes world).2.2 table) := by
  obtain ⟨after, heldAfter, agreesAfter, comes⟩ :=
    (refines_perform keep agrees held operation).runOn
  rw [failed] at comes
  refine ⟨comes.isFatal_eq, fun inPlace => ?_⟩
  obtain ⟨same, rfl⟩ := agrees.unique agreesAfter (comes.map_eq inPlace)
  exact ⟨same, heldAfter⟩

/-- Nodes that have been saved are all there again once they have been restored. -/
theorem eq_of_restore (keep : stores.KeepNodes holds) (held : holds world table)
    {earlier : Namespace} {saved : Table Entry} (agrees : earlier.Agrees saved)
    (restored : ((Namespace.restore earlier.toTable).runOn stores nodes world).1 = .ok ()) :
    ((Namespace.restore earlier.toTable).runOn stores nodes world).2.1 = earlier ∧
      holds ((Namespace.restore earlier.toTable).runOn stores nodes world).2.2 saved := by
  have whole : earlier.toTable = saved := by
    rw [agrees.eq_ofTable, Namespace.toTable_ofTable agrees.sorted]
  have ends : Namespace.Comes stores (Namespace.restore earlier.toTable) nodes world
      fun result after world => result = .ok () → after = earlier ∧ holds world saved := by
    rw [whole]
    refine Namespace.comes_restore keep held agrees.sorted ?_ ?_ ?_
    · rintro cause world - ⟨⟩
    · rintro front cause after world - - - ⟨⟩
    · exact fun after world same stored _ =>
        ⟨same.eq_ofTable.trans agrees.eq_ofTable.symm, stored⟩
  exact ends.runOn restored

/-- Over stores that keep a table of nodes, which may refuse any change of it: after any operations
on nodes that have been read, the keys, the entries and the stored table are the same map; each
further operation does what it does to a finite map, or is refused by the stores; one that fails
finds no divergence and leaves everything as it was, unless it restores nodes; and nodes that have
been saved are all there again once they have been restored. -/
theorem refines_map (keep : stores.KeepNodes holds) (start : holds world table)
    (sorted : Table.Sorted table) (blank : Namespace) (first second : List NodeOperation) :
    let opened := Namespace.load.runOn stores blank world
    match opened.1 with
    | .error e => (∃ cause, e = .storage cause) ∧ holds opened.2.2 table
    | .ok _ =>
      let earlier := runAll stores opened.2 first
      let now := runAll stores earlier second
      (∃ stored, holds now.2 stored ∧ now.1.Agrees stored ∧
        ∀ operation : NodeOperation,
          let reached := operation.perform.runOn stores now.1 now.2
          (∃ after, holds reached.2.2 after ∧ reached.2.1.Agrees after) ∧
            operation.ComesTo now.1.get? reached.1 reached.2.1.get? ∧
            ∀ e, reached.1 = .error e → e.isFatal = false ∧
              (operation.isRestore = false → reached.2.1 = now.1 ∧ holds reached.2.2 stored)) ∧
      ∃ saved, holds earlier.2 saved ∧ earlier.1.Agrees saved ∧
        let back := (Namespace.restore earlier.1.toTable).runOn stores now.1 now.2
        back.1 = .ok () → back.2.1 = earlier.1 ∧ holds back.2.2 saved := by
  intro opened
  have ends : Namespace.Comes stores Namespace.load blank world fun result after world =>
      match result with
      | .error e => (∃ cause, e = .storage cause) ∧ holds world table
      | .ok _ => after.Agrees table ∧ holds world table :=
    Namespace.comes_load keep sorted start (fun cause _ same => ⟨⟨cause, rfl⟩, same⟩)
      fun _ _ agrees same => ⟨agrees, same⟩
  have begun := ends.runOn
  change match opened.1 with
    | .error e => (∃ cause, e = .storage cause) ∧ holds opened.2.2 table
    | .ok _ => opened.2.1.Agrees table ∧ holds opened.2.2 table at begun
  cases loaded : opened.1 with
  | error e =>
      rw [loaded] at begun
      exact begun
  | ok _ =>
      rw [loaded] at begun
      obtain ⟨saved, heldThen, agreedThen⟩ := exists_agrees_runAll keep begun.1 begun.2 first
      obtain ⟨stored, heldNow, agreesNow⟩ :=
        exists_agrees_runAll keep agreedThen heldThen second
      refine ⟨⟨stored, heldNow, agreesNow, fun operation => ?_⟩, saved, heldThen, agreedThen,
        eq_of_restore keep heldNow agreedThen⟩
      obtain ⟨after, heldAfter, agreesAfter, comes⟩ :=
        (refines_perform keep agreesNow heldNow operation).runOn
      exact ⟨⟨after, heldAfter, agreesAfter⟩, comes, fun e failed =>
        unchanged_of_error keep agreesNow heldNow operation failed⟩

/-- Stores in memory that refuse to remove one of the nodes. -/
private def clinging : FaultyStores MemoryStores :=
  ⟨.empty, .named ["ns.remove:b"], 0, 0⟩

/-- Of two nodes only one can be removed; the other is left as it was, and both are restored. -/
theorem refines_map_clinging :
    let stores := FaultyStores.answer MemoryStores.answer
    let holds := fun (world : FaultyStores MemoryStores) (table : Table Entry) =>
      ∃ held, world.Holds held ∧ held.nodes = table
    let opened := Namespace.load.runOn stores .empty clinging
    let full := runAll stores opened.2 [.add "a" (.ofShelf "a"), .add "b" (.ofShelf "b")]
    let less := runAll stores full [.remove "b", .remove "a"]
    let kept := (NodeOperation.remove "b").perform.runOn stores less.1 less.2
    let back := (Namespace.restore full.1.toTable).runOn stores less.1 less.2
    stores.KeepNodes holds ∧ holds clinging [] ∧ opened.1 = .ok () ∧
      less.1.get? "a" = none ∧ kept.1 = .error (.storage (.backend "injected ns.remove")) ∧
        kept.2.1 = less.1 ∧ back.1 = .ok () ∧ back.2.1 = full.1 := by
  intro stores holds opened full less kept back
  have keep : stores.KeepNodes holds := FaultyStores.areFallible.keepNodes
  have start : holds clinging [] := ⟨.empty, ⟨rfl, fun _ => by rfl, rfl⟩, rfl⟩
  have refused : kept.1 = .error (.storage (.backend "injected ns.remove")) := by rfl
  have restored : back.1 = .ok () := by rfl
  obtain ⟨⟨stored, -, -, each⟩, saved, -, -, again⟩ :=
    refines_map keep start Table.sorted_nil .empty
      [.add "a" (.ofShelf "a"), .add "b" (.ofShelf "b")] [.remove "b", .remove "a"]
  have unchanged := ((each (.remove "b")).2.2 _ refused).2 rfl
  exact ⟨keep, start, by rfl, by rfl, refused, unchanged.1, restored, (again restored).1⟩

end NodeOperation

end ShelfLibrary
