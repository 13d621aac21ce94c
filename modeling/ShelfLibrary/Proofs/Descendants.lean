import ShelfLibrary.Proofs.ByteOrder
import ShelfLibrary.Proofs.Subtree

/-!
# The nodes of a subtree

Whatever texts the keys are, the range scan from a key on finds the nodes registered at it or below
it, and no others, in the order of the bytes of their keys.  In this order every node stands after
those that it lies below.
-/

namespace ShelfLibrary

namespace Path

variable {ancestor key : String}

/-- Whether a key goes on after another with a dot. -/
def IsBelow (ancestor key : String) : Prop :=
  ∃ rest, key = ancestor ++ "." ++ rest

/-- What lies below a key comes after it in order. -/
theorem IsBelow.lt (below : IsBelow ancestor key) : ancestor < key := by
  obtain ⟨rest, rfl⟩ := below
  have continued := isPrefix_of_isWithin (isWithin_below ancestor rest)
  refine lt_of_le_of_ne (not_lt.mp fun before => ?_) fun same => ?_
  · exact not_lt_of_isPrefix continued (String.lt_iff_toList_lt.mp before)
  · have length := congrArg String.length same
    simp only [String.length_append] at length
    have dot : ".".length = 1 := rfl
    omega

end Path

namespace Namespace

variable {nodes : Namespace} {keys : Table Unit} {key name : String} {entry : Entry}
  {listed other : List Node}

/-- Whether a key is registered with an entry: it is one of the keys and has the entry. -/
def Registers (nodes : Namespace) (name : String) (entry : Entry) : Prop :=
  name ∈ Table.keys nodes.keys ∧ nodes.get? name = some entry

/-- Whether nodes are those at or below a key, one after another. -/
structure ListsSubtree (nodes : Namespace) (key : String) (listed : List Node) : Prop where
  /-- The bytes of the keys increase. -/
  ordered : listed.Pairwise fun earlier later => Bytes.ofText earlier.1 < Bytes.ofText later.1
  /-- The nodes are those that are registered at the key or below it. -/
  mem_iff : ∀ name entry, (name, entry) ∈ listed ↔
    nodes.Registers name entry ∧ Path.InSubtree key name

/-- Whether a node stands after each that it lies below. -/
def AncestorsFirst (listed : List Node) : Prop :=
  ∀ (i j : Nat) (node ancestor : Node), listed[i]? = some node → listed[j]? = some ancestor →
    Path.IsBelow ancestor.1 node.1 → j < i

/-- Whether a node stands before each that it lies below. -/
def AncestorsLast (listed : List Node) : Prop :=
  ∀ (i j : Nat) (node ancestor : Node), listed[i]? = some node → listed[j]? = some ancestor →
    Path.IsBelow ancestor.1 node.1 → i < j

/-! ## Nodes of keys -/

theorem mem_nodesOf :
    (name, entry) ∈ nodes.nodesOf keys ↔ name ∈ Table.keys keys ∧ nodes.get? name = some entry := by
  unfold nodesOf
  rw [List.mem_filterMap]
  constructor
  · rintro ⟨⟨other, ⟨⟩⟩, member, found⟩
    obtain ⟨entry, registered, same⟩ := Option.map_eq_some_iff.mp found
    obtain ⟨rfl, rfl⟩ := Prod.mk.inj same
    exact ⟨List.mem_map.mpr ⟨_, member, rfl⟩, registered⟩
  · rintro ⟨member, registered⟩
    obtain ⟨⟨other, ⟨⟩⟩, among, rfl⟩ := List.mem_map.mp member
    exact ⟨_, among, by simp only [registered, Option.map_some]⟩

theorem sorted_nodesOf (nodes : Namespace) (sorted : Table.Sorted keys) :
    Table.Sorted (nodes.nodesOf keys) := by
  refine List.Pairwise.filterMap _ (fun first second before earlier found later there => ?_) sorted
  obtain ⟨_, -, rfl⟩ := Option.map_eq_some_iff.mp found
  obtain ⟨_, -, rfl⟩ := Option.map_eq_some_iff.mp there
  exact before

/-! ## The subtree -/

theorem sorted_subtree (sorted : Table.Sorted nodes.keys) (key : String) :
    Table.Sorted (nodes.subtree key) := by
  rw [subtree_eq sorted]
  exact sorted_nodesOf nodes (Table.sorted_filter sorted _)

theorem mem_subtree (sorted : Table.Sorted nodes.keys) :
    (name, entry) ∈ nodes.subtree key ↔ nodes.Registers name entry ∧ Path.InSubtree key name := by
  have among : name ∈ Table.keys (nodes.keys.filter fun item => Path.isWithin item.1 key) ↔
      name ∈ Table.keys nodes.keys ∧ Path.isWithin name key = true := by
    simp only [Table.keys, List.mem_map, List.mem_filter]
    constructor
    · rintro ⟨item, ⟨member, within⟩, rfl⟩
      exact ⟨⟨item, member, rfl⟩, within⟩
    · rintro ⟨⟨item, member, rfl⟩, within⟩
      exact ⟨item, ⟨member, within⟩, rfl⟩
  rw [subtree_eq sorted, mem_nodesOf, among, Registers, Path.inSubtree_iff, and_right_comm]

theorem ListsSubtree.sorted (lists : nodes.ListsSubtree key listed) : Table.Sorted listed :=
  lists.ordered.imp Bytes.ofText_lt_iff.mp

/-- There is one list only of the nodes of a subtree. -/
theorem ListsSubtree.unique (lists : nodes.ListsSubtree key listed)
    (also : nodes.ListsSubtree key other) : listed = other := by
  refine Table.ext_of_sorted lists.sorted also.sorted fun name => Option.ext fun entry => ?_
  rw [Table.get?_eq_some_iff lists.sorted, Table.get?_eq_some_iff also.sorted, lists.mem_iff,
    also.mem_iff]

theorem listsSubtree_subtree (sorted : Table.Sorted nodes.keys) (key : String) :
    nodes.ListsSubtree key (nodes.subtree key) :=
  ⟨(sorted_subtree sorted key).imp Bytes.ofText_lt_iff.mpr, fun _ _ => mem_subtree sorted⟩

theorem ancestorsFirst_of_sorted (sorted : Table.Sorted listed) : AncestorsFirst listed := by
  intro i j node ancestor here there below
  obtain ⟨inside, rfl⟩ := List.getElem?_eq_some_iff.mp here
  obtain ⟨within, rfl⟩ := List.getElem?_eq_some_iff.mp there
  by_contra late
  rcases (not_lt.mp late).lt_or_eq with before | same
  · exact lt_asymm below.lt (List.pairwise_iff_getElem.mp sorted i j inside within before)
  · subst same
    exact lt_irrefl _ below.lt

theorem AncestorsFirst.reverse (first : AncestorsFirst listed) : AncestorsLast listed.reverse := by
  intro i j node ancestor here there below
  have inside := (List.getElem?_eq_some_iff.mp here).1
  have within := (List.getElem?_eq_some_iff.mp there).1
  rw [List.length_reverse] at inside within
  rw [List.getElem?_reverse inside] at here
  rw [List.getElem?_reverse within] at there
  have before := first _ _ node ancestor here there below
  omega

/-- The scan from a key on gives the list of the nodes at or below the key, in which what a node
lies below comes before it, so that the reverse lists each node before what it lies below. -/
theorem subtree_lists (sorted : Table.Sorted nodes.keys) (key : String) :
    (∀ listed, nodes.ListsSubtree key listed ↔ listed = nodes.subtree key) ∧
      AncestorsFirst (nodes.subtree key) ∧ AncestorsLast (nodes.subtree key).reverse := by
  have lists := listsSubtree_subtree sorted key
  have first := ancestorsFirst_of_sorted (sorted_subtree sorted key)
  refine ⟨fun listed => ⟨fun also => also.unique lists, ?_⟩, first, first.reverse⟩
  rintro rfl
  exact lists

/-- Of keys with bytes below and above that of a dot after one text, which is no key itself, those
that go on with a dot are found. -/
theorem subtree_lists_siblings :
    let nodes := ofTable [("a b", .ofShelf "a b"), ("a-b", .ofShelf "a-b"),
      ("a.b", .ofSection "a.b"), ("a.b.c", .ofShelf "a.b.c"), ("a/b", .ofShelf "a/b"),
      ("ab", .ofShelf "ab"), ("aé", .ofShelf "aé")]
    let found : List Node := [("a.b", .ofSection "a.b"), ("a.b.c", .ofShelf "a.b.c")]
    Table.Sorted nodes.keys ∧ nodes.ListsSubtree "a" found ∧ nodes.subtree "a" = found ∧
      AncestorsFirst found ∧ AncestorsLast found.reverse := by
  intro nodes found
  have sorted : Table.Sorted nodes.keys := by
    unfold Table.Sorted
    decide +kernel
  have same : nodes.subtree "a" = found := by decide +kernel
  obtain ⟨lists, first, last⟩ := subtree_lists sorted "a"
  rw [same] at lists first last
  exact ⟨sorted, (lists found).mpr rfl, same, first, last⟩

end Namespace

end ShelfLibrary
