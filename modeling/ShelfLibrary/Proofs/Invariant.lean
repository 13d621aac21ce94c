import ShelfLibrary.Library.Transaction
import ShelfLibrary.Proofs.Namespace
import ShelfLibrary.Store.Memory

/-!
# How nodes, notes and contents fit together

A library keeps the same tree four times: as keys and entries in memory, as a stored table, as notes
on its sections, and as contents of its shelves.  Here stands what it means that these fit together,
with the elementary changes that keep them so.
-/

namespace ShelfLibrary

/-! ## Places -/

namespace Entry

theorem isSection_eq_not_isShelf (entry : Entry) : entry.isSection = !entry.isShelf := by
  cases kind : entry.kind <;> simp [isSection, isShelf, kind]

end Entry

/-- Slashes stand in no path, so that a place tells its key. -/
theorem Location.placeOf_injective {left right : String} (leftValid : Path.isValid left = true)
    (rightValid : Path.isValid right = true) (same : placeOf left = placeOf right) :
    left = right := by
  have free {key : String} (valid : Path.isValid key = true) : '/' ∉ key.toList :=
    Path.not_mem_of_isJoined (by decide) (by decide) valid
  have general {left right : List Char} (leftFree : '/' ∉ left) (rightFree : '/' ∉ right)
      (same : (left.map fun c => if c = '.' then '/' else c) =
        right.map fun c => if c = '.' then '/' else c) : left = right := by
    induction left generalizing right with
    | nil => simpa using same.symm
    | cons c left ih =>
        cases right with
        | nil => simp at same
        | cons d right =>
            simp only [List.mem_cons, not_or] at leftFree rightFree
            simp only [List.map_cons, List.cons.injEq] at same
            obtain ⟨heads, tails⟩ := same
            have head : c = d := by
              by_cases first : c = '.' <;> by_cases second : d = '.' <;> simp_all
            rw [head, ih leftFree.2 rightFree.2 tails]
  rw [← String.toList_inj]
  refine general (free leftValid) (free rightValid) ?_
  rw [← String.toList_inj] at same
  simpa [placeOf] using same

/-- The places of the shelves among some nodes. -/
def Location.placesOf (gone : List Namespace.Node) : List String :=
  (gone.filter fun node => node.2.isShelf).map fun node => placeOf node.1

/-! ## Trees -/

/-- A table of nodes in key order is a tree: its keys are paths, each node is stored where its key
says, and lies below sections only. -/
structure IsTree (nodes : Table Entry) : Prop where
  /-- The nodes are in key order. -/
  sorted : Table.Sorted nodes
  /-- Every key is a path. -/
  valid : ∀ key entry, Table.get? nodes key = some entry → Path.isValid key = true
  /-- Every node is stored where its key says. -/
  located : ∀ key entry, Table.get? nodes key = some entry → entry.location = .ofKey key
  /-- Whatever a key continues after a dot is a section. -/
  ancestor : ∀ above rest entry, Table.get? nodes (above ++ "." ++ rest) = some entry →
    ∃ parent, Table.get? nodes above = some parent ∧ parent.isSection = true

namespace IsTree

variable {nodes : Table Entry} {key : String} {entry : Entry}

theorem empty : IsTree [] where
  sorted := Table.sorted_nil
  valid := by simp
  located := by simp
  ancestor := by simp

/-- What a key lies within is the key itself or a section. -/
theorem section_above (tree : IsTree nodes) {above : String}
    (found : Table.get? nodes key = some entry) (within : Path.isWithin key above = true) :
    key = above ∨ ∃ parent, Table.get? nodes above = some parent ∧ parent.isSection = true := by
  rcases Path.isWithin_iff.mp within with same | ⟨rest, rfl⟩
  · exact .inl same
  · exact .inr (tree.ancestor above rest entry found)

/-- Nothing lies below a shelf. -/
theorem eq_of_isWithin_shelf (tree : IsTree nodes) {shelf : String}
    {other : Entry} (found : Table.get? nodes shelf = some entry) (kind : entry.isShelf = true)
    (below : Table.get? nodes key = some other) (within : Path.isWithin key shelf = true) :
    key = shelf := by
  rcases tree.section_above below within with same | ⟨parent, there, sectionKind⟩
  · exact same
  · rw [found] at there
    obtain rfl := Option.some.inj there
    simp [Entry.isSection_eq_not_isShelf, kind] at sectionKind

/-- What is above a free key is a section. -/
theorem section_above_free (tree : IsTree nodes)
    (free : (Namespace.ofTable nodes).IsFree key) {above rest : String}
    (below : key = above ++ "." ++ rest) :
    ∃ parent, Table.get? nodes above = some parent ∧ parent.isSection = true := by
  obtain ⟨path, entry, registered, kind, within⟩ := free.parent above rest below
  rcases tree.section_above registered within with rfl | found
  · exact ⟨entry, registered, kind⟩
  · exact found

/-- A tree may grow at a free key, by a node of either kind. -/
theorem insert (tree : IsTree nodes) (free : (Namespace.ofTable nodes).IsFree key)
    (located : entry.location = .ofKey key) : IsTree (Table.insert nodes key entry) where
  sorted := Table.sorted_insert tree.sorted key entry
  valid other found there := by
    rw [Table.get?_insert] at there
    split at there
    · rename_i same
      exact same ▸ free.valid
    · exact tree.valid other found there
  located other found there := by
    rw [Table.get?_insert] at there
    split at there
    · rename_i same
      obtain rfl := Option.some.inj there
      exact same ▸ located
    · exact tree.located other found there
  ancestor above rest found there := by
    rw [Table.get?_insert] at there
    have parent : ∃ parent, Table.get? nodes above = some parent ∧ parent.isSection = true := by
      split at there
      · rename_i same
        exact tree.section_above_free free same
      · exact tree.ancestor above rest found there
    obtain ⟨parent, registered, kind⟩ := parent
    have different : key ≠ above := by
      rintro rfl
      have absent : Table.get? nodes key = none := free.absent
      simp [absent] at registered
    exact ⟨parent, by rw [Table.get?_insert_of_ne nodes entry different, registered], kind⟩

/-- A tree may lose some nodes with all that lies within them. -/
theorem eraseAll (tree : IsTree nodes) {gone : List String}
    (closed : ∀ above ∈ gone, ∀ key entry, Table.get? nodes key = some entry →
      Path.isWithin key above = true → key ∈ gone) : IsTree (Table.eraseAll nodes gone) where
  sorted := Table.sorted_eraseAll tree.sorted gone
  valid key entry found := tree.valid key entry (Table.get?_eraseAll_eq_some.mp found).1
  located key entry found := tree.located key entry (Table.get?_eraseAll_eq_some.mp found).1
  ancestor above rest entry found := by
    obtain ⟨there, stays⟩ := Table.get?_eraseAll_eq_some.mp found
    obtain ⟨parent, parentFound, kind⟩ := tree.ancestor above rest entry there
    refine ⟨parent, Table.get?_eraseAll_eq_some.mpr ⟨parentFound, fun removed => ?_⟩, kind⟩
    exact stays (closed above removed _ entry there (Path.isWithin_below above rest))

/-- The place of a shelf is among those of some nodes only if the shelf is. -/
theorem placeOf_mem_placesOf (tree : IsTree nodes) {gone : List Namespace.Node}
    (registered : ∀ node ∈ gone, Table.get? nodes node.1 = some node.2)
    (found : Table.get? nodes key = some entry) (kind : entry.isShelf = true) :
    Location.placeOf key ∈ Location.placesOf gone ↔ key ∈ gone.map Prod.fst := by
  simp only [Location.placesOf, List.mem_map, List.mem_filter]
  constructor
  · rintro ⟨node, ⟨member, -⟩, same⟩
    have nodeValid := tree.valid node.1 node.2 (registered node member)
    have keyValid := tree.valid key entry found
    exact ⟨node, member, Location.placeOf_injective nodeValid keyValid same⟩
  · rintro ⟨node, member, rfl⟩
    have same : node.2 = entry := Option.some.inj ((registered node member).symm.trans found)
    exact ⟨node, ⟨member, same ▸ kind⟩, rfl⟩

end IsTree

/-! ## Consistency -/

/-- A table of nodes, the notes on its sections and the contents of its shelves fit together. -/
structure Consistent (nodes : Table Entry) (sections : Table SectionNote)
    (shelves : Table ShelfData) : Prop where
  /-- The nodes are in key order. -/
  nodes_sorted : Table.Sorted nodes
  /-- The notes are in key order. -/
  sections_sorted : Table.Sorted sections
  /-- The contents are in the order of their places. -/
  shelves_sorted : Table.Sorted shelves
  /-- Every key is a path. -/
  valid : ∀ key entry, Table.get? nodes key = some entry → Path.isValid key = true
  /-- Every node is stored where its key says. -/
  located : ∀ key entry, Table.get? nodes key = some entry → entry.location = .ofKey key
  /-- Whatever a key continues after a dot is a section. -/
  ancestor : ∀ above rest entry, Table.get? nodes (above ++ "." ++ rest) = some entry →
    ∃ parent, Table.get? nodes above = some parent ∧ parent.isSection = true
  /-- Precisely the sections are noted. -/
  noted : ∀ key, Table.contains sections key = true ↔
    ∃ entry, Table.get? nodes key = some entry ∧ entry.isSection = true
  /-- Precisely at the places of the shelves there are contents. -/
  stored : ∀ place, Table.contains shelves place = true ↔
    ∃ key entry, Table.get? nodes key = some entry ∧ entry.isShelf = true ∧
      place = Location.placeOf key

namespace Consistent

variable {nodes : Table Entry} {sections : Table SectionNote} {shelves : Table ShelfData}
  {key : String} {entry : Entry}

theorem empty : Consistent [] [] [] where
  nodes_sorted := Table.sorted_nil
  sections_sorted := Table.sorted_nil
  shelves_sorted := Table.sorted_nil
  valid := by simp
  located := by simp
  ancestor := by simp
  noted := by simp [Table.contains]
  stored := by simp [Table.contains]

theorem tree (consistent : Consistent nodes sections shelves) : IsTree nodes where
  sorted := consistent.nodes_sorted
  valid := consistent.valid
  located := consistent.located
  ancestor := consistent.ancestor

/-! ### Elementary changes -/

theorem add_section (consistent : Consistent nodes sections shelves)
    (free : (Namespace.ofTable nodes).IsFree key) (note : SectionNote) :
    Consistent (Table.insert nodes key (.ofSection key)) (Table.insert sections key note)
      shelves where
  nodes_sorted := Table.sorted_insert consistent.nodes_sorted key _
  sections_sorted := Table.sorted_insert consistent.sections_sorted key note
  shelves_sorted := consistent.shelves_sorted
  valid := (consistent.tree.insert free rfl).valid
  located := (consistent.tree.insert free rfl).located
  ancestor := (consistent.tree.insert free rfl).ancestor
  noted other := by
    rw [Table.contains, Table.get?_insert, Table.get?_insert]
    split
    · simp [Entry.isSection, Entry.ofSection]
    · exact consistent.noted other
  stored place := by
    rw [consistent.stored place]
    refine exists_congr fun other => exists_congr fun found => ?_
    rw [Table.get?_insert]
    split
    · rename_i same
      have absent : Table.get? nodes key = none := free.absent
      rw [← same, absent]
      simp only [reduceCtorEq, false_and, Option.some.injEq, false_iff, not_and]
      rintro rfl
      simp [Entry.isShelf, Entry.ofSection]
    · exact Iff.rfl

theorem add_shelf (consistent : Consistent nodes sections shelves)
    (free : (Namespace.ofTable nodes).IsFree key) (contents : ShelfData) :
    Consistent (Table.insert nodes key (.ofShelf key)) sections
      (Table.insert shelves (Location.placeOf key) contents) where
  nodes_sorted := Table.sorted_insert consistent.nodes_sorted key _
  sections_sorted := consistent.sections_sorted
  shelves_sorted := Table.sorted_insert consistent.shelves_sorted _ contents
  valid := (consistent.tree.insert free rfl).valid
  located := (consistent.tree.insert free rfl).located
  ancestor := (consistent.tree.insert free rfl).ancestor
  noted other := by
    rw [consistent.noted other]
    refine exists_congr fun found => ?_
    rw [Table.get?_insert]
    split
    · rename_i same
      have absent : Table.get? nodes key = none := free.absent
      rw [← same, absent]
      simp only [reduceCtorEq, false_and, Option.some.injEq, false_iff, not_and]
      rintro rfl
      simp [Entry.isSection, Entry.ofShelf]
    · exact Iff.rfl
  stored place := by
    rw [Table.contains, Table.get?_insert]
    split
    · rename_i same
      refine iff_of_true rfl ⟨key, .ofShelf key, by simp, ?_, same.symm⟩
      simp [Entry.isShelf, Entry.ofShelf]
    · rename_i elsewhere
      rw [← Table.contains, consistent.stored place]
      refine exists_congr fun other => exists_congr fun found => ?_
      rw [Table.get?_insert]
      split
      · rename_i same
        subst same
        have absent : Table.get? nodes key = none := free.absent
        simp [absent, Ne.symm elsewhere]
      · exact Iff.rfl

theorem revise_shelf (consistent : Consistent nodes sections shelves)
    (found : Table.get? nodes key = some entry) (kind : entry.isShelf = true)
    (contents : ShelfData) :
    Consistent nodes sections (Table.insert shelves (Location.placeOf key) contents) where
  nodes_sorted := consistent.nodes_sorted
  sections_sorted := consistent.sections_sorted
  shelves_sorted := Table.sorted_insert consistent.shelves_sorted _ contents
  valid := consistent.valid
  located := consistent.located
  ancestor := consistent.ancestor
  noted := consistent.noted
  stored place := by
    rw [Table.contains, Table.get?_insert]
    split
    · rename_i same
      exact iff_of_true rfl ⟨key, entry, found, kind, same.symm⟩
    · exact consistent.stored place

theorem renote (consistent : Consistent nodes sections shelves)
    (found : Table.get? nodes key = some entry) (kind : entry.isSection = true)
    (note : SectionNote) : Consistent nodes (Table.insert sections key note) shelves where
  nodes_sorted := consistent.nodes_sorted
  sections_sorted := Table.sorted_insert consistent.sections_sorted key note
  shelves_sorted := consistent.shelves_sorted
  valid := consistent.valid
  located := consistent.located
  ancestor := consistent.ancestor
  noted other := by
    rw [Table.contains, Table.get?_insert]
    split
    · rename_i same
      exact iff_of_true rfl ⟨entry, same ▸ found, kind⟩
    · exact consistent.noted other
  stored := consistent.stored

/-! ### Removals -/

theorem remove_nodes (consistent : Consistent nodes sections shelves) {gone : List Namespace.Node}
    (registered : ∀ node ∈ gone, Table.get? nodes node.1 = some node.2)
    (closed : ∀ above ∈ gone.map Prod.fst, ∀ key entry, Table.get? nodes key = some entry →
      Path.isWithin key above = true → key ∈ gone.map Prod.fst) :
    Consistent (Table.eraseAll nodes (gone.map Prod.fst))
      (Table.eraseAll sections (gone.map Prod.fst))
      (Table.eraseAll shelves (Location.placesOf gone)) where
  nodes_sorted := Table.sorted_eraseAll consistent.nodes_sorted _
  sections_sorted := Table.sorted_eraseAll consistent.sections_sorted _
  shelves_sorted := Table.sorted_eraseAll consistent.shelves_sorted _
  valid := (consistent.tree.eraseAll closed).valid
  located := (consistent.tree.eraseAll closed).located
  ancestor := (consistent.tree.eraseAll closed).ancestor
  noted key := by
    rw [Table.contains_eraseAll, consistent.noted key]
    simp only [Table.get?_eraseAll_eq_some]
    constructor
    · rintro ⟨⟨entry, found, kind⟩, stays⟩
      exact ⟨entry, ⟨found, stays⟩, kind⟩
    · rintro ⟨entry, ⟨found, stays⟩, kind⟩
      exact ⟨⟨entry, found, kind⟩, stays⟩
  stored place := by
    rw [Table.contains_eraseAll, consistent.stored place]
    simp only [Table.get?_eraseAll_eq_some]
    constructor
    · rintro ⟨⟨key, entry, found, kind, rfl⟩, stays⟩
      have kept := mt (consistent.tree.placeOf_mem_placesOf registered found kind).mpr stays
      exact ⟨key, entry, ⟨found, kept⟩, kind, rfl⟩
    · rintro ⟨key, entry, ⟨found, kept⟩, kind, rfl⟩
      have stays := mt (consistent.tree.placeOf_mem_placesOf registered found kind).mp kept
      exact ⟨⟨key, entry, found, kind, rfl⟩, stays⟩

end Consistent

/-! ## Shelves that stay -/

/-- Every shelf outside some keys stays registered as it is, with its contents. -/
def MemoryStores.Keeps (touched : String → Prop) (before after : MemoryStores) : Prop :=
  ∀ key entry, Table.get? before.nodes key = some entry → entry.isShelf = true → ¬touched key →
    Table.get? after.nodes key = some entry ∧
      Table.get? after.shelves (Location.placeOf key) =
        Table.get? before.shelves (Location.placeOf key)

namespace MemoryStores.Keeps

variable {touched more : String → Prop} {first second third : MemoryStores}

theorem refl (touched : String → Prop) (held : MemoryStores) : held.Keeps touched held :=
  fun _ _ found _ _ => ⟨found, rfl⟩

theorem trans (front : Keeps touched first second) (back : Keeps touched second third) :
    Keeps touched first third := by
  intro key entry found kind apart
  obtain ⟨there, same⟩ := front key entry found kind apart
  obtain ⟨still, again⟩ := back key entry there kind apart
  exact ⟨still, again.trans same⟩

theorem mono (keeps : Keeps touched first second) (wider : ∀ key, touched key → more key) :
    Keeps more first second :=
  fun key entry found kind apart => keeps key entry found kind (mt (wider key) apart)

/-- Other contents at one place leave all shelves elsewhere alone. -/
theorem at_place {place : String} {shelves : Table ShelfData}
    (allowed : ∀ key entry, Table.get? first.nodes key = some entry →
      place = Location.placeOf key → touched key)
    (elsewhere : ∀ other, place ≠ other →
      Table.get? shelves other = Table.get? first.shelves other) :
    Keeps touched first { first with shelves := shelves } :=
  fun key entry found _ apart => ⟨found, elsewhere _ (mt (allowed key entry found) apart)⟩

end MemoryStores.Keeps

/-- The nodes stay, and every shelf keeps its contents or is given a record that it may have. -/
structure MemoryStores.Revises (mayBecome : String → Record → Prop)
    (before after : MemoryStores) : Prop where
  /-- The nodes stay. -/
  nodes_eq : after.nodes = before.nodes
  /-- Contents stay or become what they may. -/
  contents : ∀ key entry, Table.get? before.nodes key = some entry → entry.isShelf = true →
    Table.get? after.shelves (Location.placeOf key) =
        Table.get? before.shelves (Location.placeOf key) ∨
      ∃ contents, Table.get? after.shelves (Location.placeOf key) = some contents ∧
        mayBecome key contents.data

namespace MemoryStores.Revises

variable {mayBecome : String → Record → Prop} {first second third : MemoryStores}

theorem refl (mayBecome : String → Record → Prop) (held : MemoryStores) :
    held.Revises mayBecome held :=
  ⟨rfl, fun _ _ _ _ => .inl rfl⟩

theorem trans (front : Revises mayBecome first second) (back : Revises mayBecome second third) :
    Revises mayBecome first third where
  nodes_eq := back.nodes_eq.trans front.nodes_eq
  contents key entry found kind := by
    rcases back.contents key entry (front.nodes_eq ▸ found) kind with same | changed
    · rw [same]
      exact front.contents key entry found kind
    · exact .inr changed

/-- Shelves that may become nothing else are left alone. -/
theorem keeps {touched : String → Prop} (revises : Revises mayBecome first second)
    (covers : ∀ key record, mayBecome key record → touched key) : Keeps touched first second := by
  intro key entry found kind apart
  refine ⟨revises.nodes_eq ▸ found, ?_⟩
  rcases revises.contents key entry found kind with same | ⟨contents, -, allowed⟩
  · exact same
  · exact absurd (covers key contents.data allowed) apart

end MemoryStores.Revises

namespace IsTree

variable {held : MemoryStores} {key : String} {entry : Entry} {touched : String → Prop}

/-- Other contents for a shelf revise no other shelf. -/
theorem revises (tree : IsTree held.nodes) (found : Table.get? held.nodes key = some entry)
    {mayBecome : String → Record → Prop} {contents : ShelfData}
    (allowed : mayBecome key contents.data) :
    held.Revises mayBecome
      { held with shelves := Table.insert held.shelves (Location.placeOf key) contents } where
  nodes_eq := rfl
  contents other there otherFound _ := by
    rw [Table.get?_insert]
    split
    · rename_i same
      have valid := tree.valid key entry found
      obtain rfl :=
        Location.placeOf_injective valid (tree.valid other there otherFound) same
      exact .inr ⟨contents, rfl, allowed⟩
    · exact .inl rfl

/-- No shelf is stored at the place of a free key. -/
theorem placeOf_ne_of_free (tree : IsTree held.nodes)
    (free : (Namespace.ofTable held.nodes).IsFree key) {other : String} {found : Entry}
    (there : Table.get? held.nodes other = some found) :
    Location.placeOf key ≠ Location.placeOf other := by
  intro same
  obtain rfl := Location.placeOf_injective free.valid (tree.valid other found there) same
  have absent : Table.get? held.nodes key = none := free.absent
  simp [absent] at there

/-- A new node leaves all shelves alone. -/
theorem keeps_add (tree : IsTree held.nodes)
    (free : (Namespace.ofTable held.nodes).IsFree key) {after : MemoryStores}
    (nodes_eq : after.nodes = Table.insert held.nodes key entry)
    (shelves_eq : ∀ place, Location.placeOf key ≠ place →
      Table.get? after.shelves place = Table.get? held.shelves place) :
    held.Keeps touched after := by
  intro other found there kind apart
  have elsewhere := tree.placeOf_ne_of_free free there
  constructor
  · rw [nodes_eq, Table.get?_insert_of_ne held.nodes entry (ne_of_apply_ne _ elsewhere), there]
  · exact shelves_eq _ elsewhere

/-- Removing nodes leaves the shelves outside them alone. -/
theorem keeps_remove (tree : IsTree held.nodes) {gone : List Namespace.Node}
    (registered : ∀ node ∈ gone, Table.get? held.nodes node.1 = some node.2)
    (allowed : ∀ node ∈ gone, touched node.1) (catalog : Option Catalog) :
    held.Keeps touched
      { nodes := Table.eraseAll held.nodes (gone.map Prod.fst)
        shelves := Table.eraseAll held.shelves (Location.placesOf gone)
        catalog := catalog } := by
  intro key entry found kind apart
  have stays : key ∉ gone.map Prod.fst := by
    intro removed
    obtain ⟨node, member, rfl⟩ := List.mem_map.mp removed
    exact apart (allowed node member)
  have placed : Location.placeOf key ∉ Location.placesOf gone :=
    mt (tree.placeOf_mem_placesOf registered found kind).mp stays
  constructor
  · rw [Table.get?_eraseAll, if_neg stays, found]
  · rw [Table.get?_eraseAll, if_neg placed]

end IsTree

/-! ## The invariant of a library -/

/-- A library in use shows what its stores hold, and that is consistent. -/
structure Library.Mirrors (library : Library) (held : MemoryStores) : Prop where
  /-- The keys and the entries in memory are those of the stored nodes. -/
  nodes_eq : library.nodes = .ofTable held.nodes
  /-- The catalog in memory is the stored one. -/
  catalog_eq : held.catalog.getD .empty = library.catalog
  /-- No fault has ended the session. -/
  usable : library.isPoisoned = false
  /-- The nodes, the notes and the contents fit together. -/
  consistent : Consistent held.nodes library.catalog.sections held.shelves

/-- The nodes in memory are those that are stored, and they are a tree. -/
structure Library.Shows (library : Library) (held : MemoryStores) : Prop where
  /-- The keys and the entries in memory are those of the stored nodes. -/
  nodes_eq : library.nodes = .ofTable held.nodes
  /-- The stored nodes are a tree. -/
  tree : IsTree held.nodes

theorem Library.Mirrors.shows {library : Library} {held : MemoryStores}
    (mirrors : library.Mirrors held) : library.Shows held :=
  ⟨mirrors.nodes_eq, mirrors.consistent.tree⟩

theorem Library.mirrors_empty : Library.empty.Mirrors .empty where
  nodes_eq := rfl
  catalog_eq := rfl
  usable := rfl
  consistent := .empty

namespace Library.Mirrors

variable {library : Library} {held : MemoryStores} {key : String} {entry : Entry}

/-- A free key may become a section. -/
theorem add_section (mirrors : library.Mirrors held)
    (free : (Namespace.ofTable held.nodes).IsFree key) (schema : Option Schema)
    (metadata : Option Record) :
    Mirrors
      { library with
        nodes := .ofTable (Table.insert held.nodes key (.ofSection key))
        catalog := library.catalog.register key schema metadata }
      { held with
        nodes := Table.insert held.nodes key (.ofSection key)
        catalog := some (library.catalog.register key schema metadata) } where
  nodes_eq := rfl
  catalog_eq := rfl
  usable := mirrors.usable
  consistent := mirrors.consistent.add_section free ⟨schema, metadata⟩

/-- A free key may become a shelf. -/
theorem add_shelf (mirrors : library.Mirrors held)
    (free : (Namespace.ofTable held.nodes).IsFree key) (contents : ShelfData) :
    Mirrors { library with nodes := .ofTable (Table.insert held.nodes key (.ofShelf key)) }
      { held with
        nodes := Table.insert held.nodes key (.ofShelf key)
        shelves := Table.insert held.shelves (Location.placeOf key) contents } where
  nodes_eq := rfl
  catalog_eq := mirrors.catalog_eq
  usable := mirrors.usable
  consistent := mirrors.consistent.add_shelf free contents

/-- A shelf may be given other contents. -/
theorem revise_shelf (mirrors : library.Mirrors held)
    (found : Table.get? held.nodes key = some entry) (kind : entry.isShelf = true)
    (contents : ShelfData) :
    library.Mirrors
      { held with shelves := Table.insert held.shelves (Location.placeOf key) contents } :=
  { mirrors with consistent := mirrors.consistent.revise_shelf found kind contents }

/-- A section may be given another note. -/
theorem renote (mirrors : library.Mirrors held)
    (found : Table.get? held.nodes key = some entry) (kind : entry.isSection = true)
    (schema : Option Schema) (metadata : Option Record) :
    Mirrors { library with catalog := library.catalog.register key schema metadata }
      { held with catalog := some (library.catalog.register key schema metadata) } where
  nodes_eq := mirrors.nodes_eq
  catalog_eq := rfl
  usable := mirrors.usable
  consistent := mirrors.consistent.renote found kind ⟨schema, metadata⟩

/-- A section may be removed with everything in it. -/
theorem remove_subtree (mirrors : library.Mirrors held) {gone : List Namespace.Node}
    (whole : ∀ node, node ∈ gone ↔ node ∈ held.nodes ∧ Path.isWithin node.1 key = true) :
    Mirrors
      { library with
        nodes := .ofTable (Table.eraseAll held.nodes (gone.map Prod.fst))
        catalog := library.catalog.removeSubtree key }
      { nodes := Table.eraseAll held.nodes (gone.map Prod.fst)
        shelves := Table.eraseAll held.shelves (Location.placesOf gone)
        catalog := some (library.catalog.removeSubtree key) } where
  nodes_eq := rfl
  catalog_eq := rfl
  usable := mirrors.usable
  consistent := by
    have sorted := mirrors.consistent.nodes_sorted
    have registered : ∀ node ∈ gone, Table.get? held.nodes node.1 = some node.2 :=
      fun node member => Table.get?_of_mem sorted ((whole node).mp member).1
    have closed : ∀ above ∈ gone.map Prod.fst, ∀ other entry,
        Table.get? held.nodes other = some entry → Path.isWithin other above = true →
          other ∈ gone.map Prod.fst := by
      rintro _ removed other entry found within
      obtain ⟨node, member, rfl⟩ := List.mem_map.mp removed
      have inside := Path.isWithin_trans within ((whole node).mp member).2
      exact List.mem_map_of_mem ((whole (other, entry)).mpr ⟨Table.mem_of_get? found, inside⟩)
    have notes : Table.eraseAll library.catalog.sections (gone.map Prod.fst) =
        library.catalog.sections.filter fun note => !Path.isWithin note.1 key := by
      have notesSorted := mirrors.consistent.sections_sorted
      refine Table.ext_of_sorted (Table.sorted_eraseAll notesSorted _)
        (Table.sorted_filter notesSorted _) fun other => ?_
      rw [Table.get?_eraseAll,
        Table.get?_filter_keys library.catalog.sections fun name => !Path.isWithin name key]
      cases noted : Table.get? library.catalog.sections other with
      | none => simp
      | some note =>
          obtain ⟨entry, found, -⟩ :=
            (mirrors.consistent.noted other).mp (Table.contains_iff.mpr ⟨note, noted⟩)
          have listed : other ∈ gone.map Prod.fst ↔ Path.isWithin other key = true := by
            constructor
            · intro there
              obtain ⟨node, inside, rfl⟩ := List.mem_map.mp there
              exact ((whole node).mp inside).2
            · intro within
              have inside := (whole (other, entry)).mpr ⟨Table.mem_of_get? found, within⟩
              exact List.mem_map_of_mem inside
          cases within : Path.isWithin other key <;> simp [listed, within]
    have kept := mirrors.consistent.remove_nodes registered closed
    rwa [notes] at kept

/-- Shelves may be removed. -/
theorem remove_shelves (mirrors : library.Mirrors held) {gone : List Namespace.Node}
    (registered : ∀ node ∈ gone, Table.get? held.nodes node.1 = some node.2)
    (kind : ∀ node ∈ gone, node.2.isShelf = true) :
    Mirrors
      { library with nodes := .ofTable (Table.eraseAll held.nodes (gone.map Prod.fst)) }
      { held with
        nodes := Table.eraseAll held.nodes (gone.map Prod.fst)
        shelves := Table.eraseAll held.shelves (Location.placesOf gone) } where
  nodes_eq := rfl
  catalog_eq := mirrors.catalog_eq
  usable := mirrors.usable
  consistent := by
    have closed : ∀ above ∈ gone.map Prod.fst, ∀ other entry,
        Table.get? held.nodes other = some entry → Path.isWithin other above = true →
          other ∈ gone.map Prod.fst := by
      rintro _ removed other entry found within
      obtain ⟨node, member, rfl⟩ := List.mem_map.mp removed
      have same := mirrors.consistent.tree.eq_of_isWithin_shelf (registered node member)
        (kind node member) found within
      exact List.mem_map.mpr ⟨node, member, same.symm⟩
    have notes : Table.eraseAll library.catalog.sections (gone.map Prod.fst) =
        library.catalog.sections := by
      have notesSorted := mirrors.consistent.sections_sorted
      refine Table.ext_of_sorted (Table.sorted_eraseAll notesSorted _) notesSorted fun other => ?_
      rw [Table.get?_eraseAll]
      split
      · rename_i removed
        obtain ⟨node, inside, rfl⟩ := List.mem_map.mp removed
        refine (Table.contains_eq_false_iff.mp (Bool.eq_false_of_not_eq_true fun noted => ?_)).symm
        obtain ⟨entry, found, isSection⟩ := (mirrors.consistent.noted node.1).mp noted
        rw [registered node inside] at found
        obtain rfl := Option.some.inj found
        simp [Entry.isSection_eq_not_isShelf, kind node inside] at isSection
      · rfl
    have kept := mirrors.consistent.remove_nodes registered closed
    rwa [notes] at kept

end Library.Mirrors

end ShelfLibrary
