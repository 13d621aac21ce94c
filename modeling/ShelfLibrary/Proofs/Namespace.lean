import ShelfLibrary.Namespace.Resolve
import ShelfLibrary.Proofs.Path
import ShelfLibrary.Proofs.Result
import ShelfLibrary.Proofs.Table

/-!
# The nodes of a table

The namespace that is read from a table of nodes in key order shows that table: its range scan finds
what lies within a key, and what a path resolves to is registered there.
-/

namespace ShelfLibrary.Namespace

variable {table : Table Entry} {key path : String} {entry : Entry}

/-! ## Views -/

@[simp]
theorem get?_ofTable (table : Table Entry) (key : String) :
    (ofTable table).get? key = Table.get? table key := rfl

@[simp]
theorem contains_ofTable (table : Table Entry) (key : String) :
    (ofTable table).contains key = Table.contains table key := rfl

theorem ofTable_insert (table : Table Entry) (key : String) (entry : Entry) :
    (ofTable table).insert key entry = ofTable (Table.insert table key entry) := by
  simp only [insert, ofTable, Table.mapValues_insert]

theorem ofTable_erase (table : Table Entry) (key : String) :
    (ofTable table).erase key = ofTable (Table.erase table key) := by
  simp only [erase, ofTable, Table.mapValues_erase]

theorem size_ofTable (table : Table Entry) : (ofTable table).size = table.length := by
  simp [size, ofTable, Table.mapValues]

theorem nodesOf_filter (sorted : Table.Sorted table) (keep : String → Bool) :
    (ofTable table).nodesOf ((ofTable table).keys.filter fun item => keep item.1) =
      table.filter fun node => keep node.1 := by
  have general (part : Table Entry) (members : ∀ node ∈ part, node ∈ table) :
      (ofTable table).nodesOf
          ((Table.mapValues (fun _ => ()) part).filter fun item => keep item.1) =
        part.filter fun node => keep node.1 := by
    induction part with
    | nil => rfl
    | cons node rest ih =>
        obtain ⟨key, entry⟩ := node
        have found : Table.get? table key = some entry :=
          Table.get?_of_mem sorted (members (key, entry) List.mem_cons_self)
        have others := ih fun node member => members node (List.mem_cons_of_mem _ member)
        unfold nodesOf at others ⊢
        cases kept : keep key with
        | false => simpa [Table.mapValues, kept] using others
        | true => simpa [Table.mapValues, kept, found] using others
  exact general table fun _ member => member

theorem toTable_ofTable (sorted : Table.Sorted table) : (ofTable table).toTable = table := by
  simpa [toTable] using nodesOf_filter sorted fun _ => true

theorem shelves_ofTable (sorted : Table.Sorted table) :
    (ofTable table).shelves = table.filter fun node => node.2.isShelf := by
  rw [shelves, toTable_ofTable sorted]

/-! ## The range scan -/

/-- Of keys in order, those within a key stand together: after the smaller ones, and before the
first of the others that does not begin with it. -/
private theorem scan_eq {keys : Table Unit} (sorted : Table.Sorted keys) (key : String) :
    ((keys.dropWhile fun item => item.1 < key).takeWhile fun item =>
        key.toList.isPrefixOf item.1.toList).filter (fun item => Path.isWithin item.1 key) =
      keys.filter fun item => Path.isWithin item.1 key := by
  have gathered {onward : Table Unit} (sorted : Table.Sorted onward)
      (after : ∀ item ∈ onward, ¬item.1 < key) :
      (onward.takeWhile fun item => key.toList.isPrefixOf item.1.toList).filter
          (fun item => Path.isWithin item.1 key) =
        onward.filter fun item => Path.isWithin item.1 key := by
    induction onward with
    | nil => rfl
    | cons item rest ih =>
        obtain ⟨above, restSorted⟩ := Table.sorted_cons.mp sorted
        have others := ih restSorted fun other member => after other (List.mem_cons_of_mem _ member)
        by_cases alike : key.toList <+: item.1.toList
        · have taken : key.toList.isPrefixOf item.1.toList = true :=
            List.isPrefixOf_iff_prefix.mpr alike
          rw [List.takeWhile_cons, if_pos taken, List.filter_cons, List.filter_cons, others]
        · have stopped : ¬key.toList.isPrefixOf item.1.toList = true :=
            fun taken => alike (List.isPrefixOf_iff_prefix.mp taken)
          rw [List.takeWhile_cons, if_neg stopped, List.filter_nil, eq_comm, List.filter_eq_nil_iff]
          intro other member within
          refine alike (Path.isPrefix_of_between ?_ ?_ (Path.isPrefix_of_isWithin within))
          · exact after item List.mem_cons_self
          · rcases List.mem_cons.mp member with rfl | later
            · exact absurd (Path.isPrefix_of_isWithin within) alike
            · exact above other later
  induction keys with
  | nil => rfl
  | cons item rest ih =>
      obtain ⟨above, restSorted⟩ := Table.sorted_cons.mp sorted
      by_cases before : item.1 < key
      · have outside : ¬Path.isWithin item.1 key = true := fun within =>
          Path.not_lt_of_isPrefix (Path.isPrefix_of_isWithin within) before
        rw [List.dropWhile_cons, if_pos (decide_eq_true before), List.filter_cons, if_neg outside,
          ih restSorted]
      · have kept : ¬decide (item.1 < key) = true := by simpa using before
        rw [List.dropWhile_cons, if_neg kept]
        refine gathered sorted fun other member => ?_
        rcases List.mem_cons.mp member with rfl | later
        · exact before
        · exact fun smaller => before ((above other later).trans smaller)

/-- The range scan finds the nodes of the keys within a key. -/
theorem subtree_eq {nodes : Namespace} (sorted : Table.Sorted nodes.keys) (key : String) :
    nodes.subtree key =
      nodes.nodesOf (nodes.keys.filter fun item => Path.isWithin item.1 key) := by
  rw [subtree, scan_eq sorted]

theorem subtree_ofTable (sorted : Table.Sorted table) (key : String) :
    (ofTable table).subtree key = table.filter fun node => Path.isWithin node.1 key := by
  have keysSorted : Table.Sorted (ofTable table).keys := by
    simpa [Table.Sorted, ofTable, Table.mapValues, List.pairwise_map] using sorted
  rw [subtree_eq keysSorted, nodesOf_filter sorted fun name => Path.isWithin name key]

/-! ## Resolution -/

theorem get?_of_entryOf {nodes : Namespace} (found : nodes.entryOf key = .ok entry) :
    nodes.get? key = some entry := by
  unfold entryOf at found
  split at found
  · rename_i registered
    rw [registered, Except.ok.inj found]
  · cases found

theorem get?_of_walk {nodes : Namespace} {steps : List (String × List String)}
    (walked : nodes.walk path steps = .ok entry) : nodes.get? path = some entry := by
  induction steps with
  | nil => exact get?_of_entryOf walked
  | cons step steps ih =>
      obtain ⟨key, rest⟩ := step
      unfold walk at walked
      obtain ⟨passed, -, onward⟩ := Result.bind_eq_ok.mp walked
      split at onward
      · cases onward
      · exact ih onward

theorem of_resolve {nodes : Namespace} (resolved : nodes.resolve path = .ok entry) :
    Path.isValid path = true ∧ nodes.get? path = some entry := by
  unfold resolve at resolved
  split at resolved
  · cases resolved
  · rename_i valid
    exact ⟨by simpa using valid, get?_of_walk (Result.mapError_eq_ok.mp resolved)⟩

theorem of_resolveSection {nodes : Namespace} (resolved : nodes.resolveSection path = .ok entry) :
    Path.isValid path = true ∧ nodes.get? path = some entry ∧ entry.isSection = true := by
  obtain ⟨met, found, checked⟩ := Result.bind_eq_ok.mp resolved
  split at checked
  · rename_i kind
    obtain rfl : met = entry := Except.ok.inj checked
    exact ⟨(of_resolve found).1, (of_resolve found).2, kind⟩
  · cases checked

theorem of_resolveShelf {nodes : Namespace} (resolved : nodes.resolveShelf path = .ok entry) :
    nodes.get? path = some entry ∧ entry.isShelf = true := by
  obtain ⟨met, found, checked⟩ := Result.bind_eq_ok.mp resolved
  split at checked
  · rename_i kind
    obtain rfl : met = entry := Except.ok.inj checked
    exact ⟨(of_resolve found).2, kind⟩
  · cases checked

/-- What a new key may be: a free path that is a child of a section, or of the root. -/
structure IsFree (nodes : Namespace) (key : String) : Prop where
  /-- The key is a path. -/
  valid : Path.isValid key = true
  /-- Nothing is registered under the key. -/
  absent : nodes.get? key = none
  /-- What is above the key is a section or above a section. -/
  parent : ∀ ancestor rest, key = ancestor ++ "." ++ rest →
    ∃ path entry, nodes.get? path = some entry ∧ entry.isSection = true ∧
      Path.isWithin path ancestor = true

theorem isFree_of_resolveTarget {nodes : Namespace} {parent : Option String} {name : String}
    (resolved : nodes.resolveTarget parent name = .ok key) : nodes.IsFree key := by
  have absent_of_not_contains (missing : ¬nodes.contains (Path.join parent name) = true) :
      nodes.get? (Path.join parent name) = none :=
    Table.contains_eq_false_iff.mp (Bool.eq_false_of_not_eq_true missing)
  unfold resolveTarget at resolved
  simp only [bind, Except.bind, pure, Except.pure, throw, throwThe, MonadExceptOf.throw] at resolved
  split at resolved
  · cases resolved
  · rename_i unnamed
    have named : Path.isName name = true := by simpa using unnamed
    split at resolved
    · rename_i path
      split at resolved
      · cases resolved
      rename_i entry found
      obtain ⟨valid, registered, kind⟩ := of_resolveSection found
      split at resolved
      · cases resolved
      · rename_i missing
        obtain rfl : Path.join (some path) name = key := Except.ok.inj resolved
        refine ⟨Path.isValid_join ?_ named, absent_of_not_contains missing, ?_⟩
        · rintro other ⟨rfl⟩
          exact valid
        · intro ancestor rest below
          obtain ⟨other, ⟨rfl⟩, within⟩ := Path.parent_of_join named below
          exact ⟨path, entry, registered, kind, within⟩
    · rename_i root
      split at resolved
      · cases resolved
      · rename_i missing
        obtain rfl : Path.join parent name = key := Except.ok.inj resolved
        have atRoot (path : String) : parent ≠ some path := fun given => root path given
        refine ⟨Path.isValid_join (fun path given => absurd given (atRoot path)) named,
          absent_of_not_contains missing, fun ancestor rest below => ?_⟩
        obtain ⟨path, given, -⟩ := Path.parent_of_join named below
        exact absurd given (atRoot path)

/-- The parent of a new key is the section that it was asked for in. -/
theorem parent?_of_resolveTarget {nodes : Namespace} {parent : Option String} {name : String}
    (resolved : nodes.resolveTarget parent name = .ok key) : Path.parent? key = parent := by
  unfold resolveTarget at resolved
  simp only [bind, Except.bind, pure, Except.pure, throw, throwThe, MonadExceptOf.throw] at resolved
  split at resolved
  · cases resolved
  · rename_i unnamed
    have named : Path.isName name = true := by simpa using unnamed
    have joined : Path.join parent name = key := by
      grind
    rw [← joined, Path.parent?_join parent named]

theorem isWithin_of_mem_splits {before names rest : List String}
    (member : (key, rest) ∈ splits before names) :
    Path.isWithin (Path.ofSegments (before ++ names)) key = true := by
  induction names generalizing before with
  | nil => simp [splits] at member
  | cons name names ih =>
      unfold splits at member
      rcases List.mem_cons.mp member with first | later
      · obtain ⟨rfl, rfl⟩ := Prod.mk.inj first
        by_cases last : rest = []
        · simp [last]
        · rw [List.append_cons, Path.ofSegments_append (by simp) last]
          exact Path.isWithin_below _ _
      · rw [List.append_cons]
        exact ih later

theorem of_findField {nodes : Namespace} {steps : List (String × List String)}
    {address : FieldAddress} (found : nodes.findField path steps = .ok address) :
    nodes.get? address.shelf = some address.entry ∧ address.entry.isShelf = true ∧
      ∃ rest, (address.shelf, rest) ∈ steps := by
  induction steps with
  | nil => cases found
  | cons step steps ih =>
      obtain ⟨key, rest⟩ := step
      unfold findField at found
      split at found
      · cases found
      · rename_i entry registered
        split at found
        · obtain ⟨there, kind, names, member⟩ := ih found
          exact ⟨there, kind, names, List.mem_cons_of_mem _ member⟩
        · rename_i kind
          split at found
          · cases found
          · obtain rfl := Except.ok.inj found
            refine ⟨registered, ?_, rest, List.mem_cons_self⟩
            cases shape : entry.kind <;> simp_all [Entry.isSection, Entry.isShelf]

theorem of_resolveField {nodes : Namespace} {address : FieldAddress}
    (resolved : nodes.resolveField path = .ok address) :
    nodes.get? address.shelf = some address.entry ∧ address.entry.isShelf = true ∧
      Path.isWithin path address.shelf = true := by
  unfold resolveField at resolved
  split at resolved
  · cases resolved
  · obtain ⟨there, kind, rest, member⟩ := of_findField resolved
    have within := isWithin_of_mem_splits member
    rw [List.nil_append, Path.ofSegments_segments] at within
    exact ⟨there, kind, within⟩

/-! ## Refusals -/

theorem isRefusal_resolve (nodes : Namespace) (path : String) :
    Result.IsRefusal (nodes.resolve path) := by
  unfold resolve
  split
  · exact Result.isRefusal_error.mpr rfl
  · exact Result.isRefusal_resolution _

theorem isRefusal_resolveSection (nodes : Namespace) (path : String) :
    Result.IsRefusal (nodes.resolveSection path) := by
  refine (isRefusal_resolve nodes path).bind fun entry => ?_
  split
  · exact Result.isRefusal_ok entry
  · exact Result.isRefusal_error.mpr rfl

theorem isRefusal_resolveShelf (nodes : Namespace) (path : String) :
    Result.IsRefusal (nodes.resolveShelf path) := by
  refine (isRefusal_resolve nodes path).bind fun entry => ?_
  split
  · exact Result.isRefusal_ok entry
  · exact Result.isRefusal_error.mpr rfl

theorem isRefusal_resolveTarget (nodes : Namespace) (parent : Option String) (name : String) :
    Result.IsRefusal (nodes.resolveTarget parent name) := by
  have checked : Result.IsRefusal (if nodes.contains (Path.join parent name) = true then
      Except.error (LibraryError.resolution (.duplicate (Path.join parent name)))
      else .ok (Path.join parent name)) := by
    split
    · exact Result.isRefusal_error.mpr rfl
    · exact Result.isRefusal_ok _
  unfold resolveTarget
  simp only [bind, Except.bind, pure, Except.pure, throw, throwThe, MonadExceptOf.throw]
  split
  · exact Result.isRefusal_error.mpr rfl
  · split
    · split
      · rename_i e refused
        exact Result.isRefusal_error.mpr (isRefusal_resolveSection nodes _ e refused)
      · exact checked
    · exact checked

theorem isRefusal_findField (nodes : Namespace) (path : String)
    (steps : List (String × List String)) : Result.IsRefusal (nodes.findField path steps) := by
  induction steps with
  | nil => exact Result.isRefusal_error.mpr rfl
  | cons step steps ih =>
      obtain ⟨key, rest⟩ := step
      unfold findField
      split
      · exact Result.isRefusal_error.mpr rfl
      · split
        · exact ih
        · split
          · exact Result.isRefusal_error.mpr rfl
          · exact Result.isRefusal_ok _

theorem isRefusal_resolveField (nodes : Namespace) (path : String) :
    Result.IsRefusal (nodes.resolveField path) := by
  unfold resolveField
  split
  · exact Result.isRefusal_error.mpr rfl
  · exact isRefusal_findField nodes path _

end ShelfLibrary.Namespace
