import ShelfLibrary.Store.Call

/-!
# Stores in memory

The plainest stores: a table of nodes, the contents of shelves by place, and a catalog.  Only a
change that does not fit the table of nodes is refused.
-/

namespace ShelfLibrary

/-- Stores that are kept in memory. -/
structure MemoryStores where
  /-- The table of nodes. -/
  nodes : Table Entry
  /-- The contents of the shelves by place. -/
  shelves : Table ShelfData
  /-- The catalog, once it has been stored. -/
  catalog : Option Catalog

namespace MemoryStores

/-- Stores that hold nothing. -/
def empty : MemoryStores := ⟨[], [], none⟩

/-- How stores in memory answer. -/
def answer : Stores MemoryStores
  | .loadNodes, state => (.ok state.nodes, state)
  | .changeNodes delta, state =>
    match delta.apply state.nodes with
    | .ok nodes => (.ok (), { state with nodes := nodes })
    | .error cause => (.error cause, state)
  | .countNodes, state => (.ok state.nodes.length, state)
  | .compactNodes, state => (.ok (), state)
  | .loadShelf location, state => (.ok (Table.get? state.shelves location.path), state)
  | .storeShelf location contents, state =>
    (.ok (), { state with shelves := Table.insert state.shelves location.path contents })
  | .deleteShelf location, state =>
    (.ok (), { state with shelves := Table.erase state.shelves location.path })
  | .loadCatalog, state => (.ok state.catalog, state)
  | .saveCatalog catalog, state => (.ok (), { state with catalog := some catalog })

end MemoryStores

end ShelfLibrary
