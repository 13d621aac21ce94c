import ShelfLibrary.Store.Action

/-!
# The namespace

All nodes of an open library are held in memory: their keys in order, and apart from them an entry
for each key.  A change is stored first and then made in memory; after each, the numbers of keys and
of entries are held against the number of nodes that are stored.  A difference is a fault that no
later work can mend.
-/

namespace ShelfLibrary

/-- The nodes of an open library. -/
structure Namespace where
  /-- The keys in order. -/
  keys : Table Unit
  /-- The entries by key. -/
  entries : Table Entry

namespace Namespace

/-- A key and its entry. -/
abbrev Node := String × Entry

/-- No nodes. -/
def empty : Namespace := ⟨[], []⟩

/-- The nodes of a table. -/
def ofTable (table : Table Entry) : Namespace :=
  ⟨Table.mapValues (fun _ => ()) table, table⟩

/-- The entry of a key, if it is registered. -/
def get? (nodes : Namespace) (key : String) : Option Entry :=
  Table.get? nodes.entries key

/-- Whether a key is registered. -/
def contains (nodes : Namespace) (key : String) : Bool :=
  Table.contains nodes.entries key

/-- The entry of a key. -/
def entryOf (nodes : Namespace) (key : String) : Except ResolutionError Entry :=
  match nodes.get? key with
  | some entry => .ok entry
  | none => .error (.notFound key)

/-- The number of keys. -/
def size (nodes : Namespace) : Nat := nodes.keys.length

/-- The nodes of some keys; a key without an entry has none. -/
def nodesOf (nodes : Namespace) (keys : Table Unit) : Table Entry :=
  keys.filterMap fun (key, ()) => (nodes.get? key).map fun entry => (key, entry)

/-- All nodes in key order. -/
def toTable (nodes : Namespace) : Table Entry :=
  nodes.nodesOf nodes.keys

/-- The nodes directly in a section, or at the root. -/
def children (nodes : Namespace) (parent : Option String) : List Node :=
  nodes.toTable.filter fun node => Path.parent? node.1 = parent

/-- A node and everything below it: of the keys from its own on, those that begin with it are gone
through, and those among them that lie within it are taken. -/
def subtree (nodes : Namespace) (key : String) : List Node :=
  let onward := nodes.keys.dropWhile fun entry => entry.1 < key
  let alike := onward.takeWhile fun entry => key.toList.isPrefixOf entry.1.toList
  nodes.nodesOf (alike.filter fun entry => Path.isWithin entry.1 key)

/-- The shelves. -/
def shelves (nodes : Namespace) : List Node :=
  nodes.toTable.filter fun node => node.2.isShelf

/-- The nodes with one more. -/
def insert (nodes : Namespace) (key : String) (entry : Entry) : Namespace :=
  ⟨Table.insert nodes.keys key (), Table.insert nodes.entries key entry⟩

/-- The nodes with another entry for a key. -/
def replace (nodes : Namespace) (key : String) (entry : Entry) : Namespace :=
  { nodes with entries := Table.insert nodes.entries key entry }

/-- The nodes without a key. -/
def erase (nodes : Namespace) (key : String) : Namespace :=
  ⟨Table.erase nodes.keys key, Table.erase nodes.entries key⟩

/-- The keys and the entries in memory have to be as many as the stored nodes. -/
def verify (operation : String) : Action Namespace Unit := do
  let stored ← Action.ask .countNodes
  let nodes ← get
  if nodes.size = nodes.entries.length && nodes.size = stored then return ()
  else throw (.diverged operation nodes.size nodes.entries.length stored)

/-- Reads all nodes from the stores. -/
def load : Action Namespace Unit := do
  let table ← Action.ask .loadNodes
  set (ofTable table)
  verify "load"

/-- Registers a node under a new key, which has to be a path. -/
def add (key : String) (entry : Entry) : Action Namespace Unit := do
  if !Path.isValid key then throw (.validation (.invalidPath key))
  if (← get).contains key then throw (.resolution (.duplicate key))
  let () ← Action.ask (.changeNodes (.put key entry))
  modify fun nodes => nodes.insert key entry
  verify "add"

/-- Replaces the entry of a node. -/
def update (key : String) (entry : Entry) : Action Namespace Unit := do
  if !(← get).contains key then throw (.resolution (.notFound key))
  let () ← Action.ask (.changeNodes (.update key entry))
  modify fun nodes => nodes.replace key entry
  verify "update"

/-- Removes a node and gives back its entry. -/
def remove (key : String) : Action Namespace Entry := do
  match (← get).get? key with
  | none => throw (.resolution (.notFound key))
  | some entry =>
    let () ← Action.ask (.changeNodes (.remove key))
    modify fun nodes => nodes.erase key
    verify "remove"
    return entry

/-- Stores nodes one after another and adds each to memory once it is stored. -/
def putAll : List Node → Action Namespace Unit
  | [] => return ()
  | (key, entry) :: rest => do
    let () ← Action.ask (.changeNodes (.put key entry))
    modify fun nodes => nodes.insert key entry
    putAll rest

/-- Replaces all nodes by others. -/
def restore (saved : Table Entry) : Action Namespace Unit := do
  let () ← Action.ask (.changeNodes .clear)
  set empty
  putAll saved
  verify "restore"

/-- Lets the stores rewrite what the nodes are stored in. -/
def compact : Action Namespace Unit := do
  let () ← Action.ask .compactNodes
  verify "compact"

end Namespace

end ShelfLibrary
