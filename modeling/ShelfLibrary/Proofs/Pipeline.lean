import ShelfLibrary.Proofs.Order
import ShelfLibrary.Proofs.Prediction

/-!
# What a checkout shows

The shelves of the items come each once and for the first item that reaches it, by the order of the
items and then of the keys.  Those that the filter keeps are sorted, where shelves that no criterion
tells apart stay in this order, and a page is cut out.  A checkout changes nothing, so that its
pages one after another make up the whole.
-/

namespace ShelfLibrary

/-! ## Stable sorting -/

section Sorting

variable {α : Type} {compare : α → α → Ordering} {before after other : List α}

/-- A list has been brought into the order of a comparison, and what the comparison does not tell
apart has stayed in its order. -/
structure IsStableSort (compare : α → α → Ordering) (before after : List α) : Prop where
  /-- Nothing is added or left out. -/
  perm : after.Perm before
  /-- Nothing comes after something greater. -/
  ordered : after.Pairwise fun a b => compare a b ≠ .gt
  /-- What is equal to something stays in its order. -/
  stable : ∀ a, (after.filter fun b => compare a b == .eq) =
    before.filter fun b => compare a b == .eq

theorem IsStableSort.of_ordered (ordered : before.Pairwise fun a b => compare a b ≠ .gt) :
    IsStableSort compare before before :=
  ⟨.refl before, ordered, fun _ => rfl⟩

variable [Std.TransCmp compare]

theorem isStableSort_mergeSort (before : List α) :
    IsStableSort compare before (before.mergeSort fun a b => (compare a b).isLE) := by
  have trans (a b c : α) (left : (compare a b).isLE) (right : (compare b c).isLE) :
      (compare a c).isLE := Std.TransCmp.isLE_trans left right
  have total (a b : α) : ((compare a b).isLE || (compare b a).isLE) = true := by
    have swapped : compare b a = (compare a b).swap := Std.OrientedCmp.eq_swap
    rw [swapped]
    cases compare a b <;> rfl
  have perm := List.mergeSort_perm before fun a b => (compare a b).isLE
  refine ⟨perm, (List.pairwise_mergeSort trans total before).imp Ordering.isLE_iff_ne_gt.mp,
    fun a => ?_⟩
  -- What is equal to one thing is in order as it stands.
  have equal : (before.filter fun b => compare a b == .eq).Pairwise
      fun b c => (compare b c).isLE = true := by
    refine List.pairwise_of_forall_mem_list fun b first c second => ?_
    have left : compare a b = .eq := by simpa using (List.mem_filter.mp first).2
    have right : compare a c = .eq := by simpa using (List.mem_filter.mp second).2
    rw [← Std.TransCmp.congr_left left, right]
    rfl
  have kept := (List.sublist_mergeSort trans total equal List.filter_sublist).filter
    fun b => compare a b == .eq
  rw [List.filter_filter] at kept
  simp only [Bool.and_self] at kept
  exact (kept.eq_of_length (perm.filter _).length_eq.symm).symm

/-- The first of two lists of the same things are equal in the order of a comparison if nothing in
either list is less than its first. -/
theorem compare_eq_of_perm_cons {x y : α} {xs ys : List α} (perm : (x :: xs).Perm (y :: ys))
    (least : ∀ a ∈ xs, compare x a ≠ .gt) (least' : ∀ a ∈ ys, compare y a ≠ .gt) :
    compare x y = .eq := by
  rcases List.mem_cons.mp (perm.mem_iff.mpr List.mem_cons_self) with rfl | later
  · exact Std.ReflCmp.compare_self
  rcases List.mem_cons.mp (perm.mem_iff.mp List.mem_cons_self) with rfl | later'
  · exact Std.ReflCmp.compare_self
  have up : compare x y ≠ .gt := least y later
  have down : (compare x y).swap ≠ .gt :=
    (Std.OrientedCmp.eq_swap : compare y x = (compare x y).swap) ▸ least' x later'
  cases step : compare x y with
  | eq => rfl
  | lt => exact absurd (congrArg Ordering.swap step) down
  | gt => exact absurd step up

/-- There is one stable order only. -/
theorem IsStableSort.eq (left : IsStableSort compare before after)
    (right : IsStableSort compare before other) : after = other := by
  have perm : after.Perm other := left.perm.trans right.perm.symm
  have same (a : α) : (after.filter fun b => compare a b == .eq) =
      other.filter fun b => compare a b == .eq := (left.stable a).trans (right.stable a).symm
  have ordered := left.ordered
  have ordered' := right.ordered
  clear left right
  induction after generalizing other with
  | nil => exact perm.nil_eq
  | cons x xs ih =>
      cases other with
      | nil => exact absurd perm.symm.nil_eq (by simp)
      | cons y ys =>
          obtain ⟨least, behind⟩ := List.pairwise_cons.mp ordered
          obtain ⟨least', behind'⟩ := List.pairwise_cons.mp ordered'
          have tie : compare x y = .eq := compare_eq_of_perm_cons perm least least'
          have heads := same x
          rw [List.filter_cons_of_pos (by simp [Std.ReflCmp.compare_self]),
            List.filter_cons_of_pos (by simp [tie])] at heads
          obtain rfl := (List.cons.inj heads).1
          refine congrArg _ (ih ((List.perm_cons x).mp perm) (fun a => ?_) behind behind')
          cases equal : compare a x == .eq <;> simpa [List.filter_cons, equal] using same a

theorem isStableSort_iff :
    IsStableSort compare before after ↔
      after = before.mergeSort fun a b => (compare a b).isLE :=
  ⟨fun sorts => sorts.eq (isStableSort_mergeSort before),
    fun same => same ▸ isStableSort_mergeSort before⟩

end Sorting

/-! ## Gathering -/

/-- Whether a shelf lies at or under the path of an item. -/
def CheckOutItem.reaches (item : CheckOutItem) (key : String) : Bool :=
  Path.isWithin key item.path

/-- The place of the first item that reaches a shelf. -/
def CheckOut.rank (items : List CheckOutItem) (key : String) : Nat :=
  items.findIdx fun item => item.reaches key

namespace CheckOut

variable {items : List CheckOutItem} {item : CheckOutItem} {key : String}

theorem rank_lt (reached : ∃ earlier ∈ items, earlier.reaches key = true) :
    rank items key < items.length :=
  List.findIdx_lt_length_of_exists reached

theorem rank_concat (reached : ∃ earlier ∈ items, earlier.reaches key = true) :
    rank (items ++ [item]) key = rank items key := by
  have below := rank_lt reached
  unfold rank at below ⊢
  rw [List.findIdx_append, if_pos below]

theorem rank_concat_self (fresh : ∀ earlier ∈ items, earlier.reaches key = false)
    (reaches : item.reaches key = true) : rank (items ++ [item]) key = items.length := by
  have none : items.findIdx (fun item => item.reaches key) = items.length :=
    List.findIdx_eq_length_of_false fresh
  rw [rank, List.findIdx_append, none, if_neg (lt_irrefl _), List.findIdx_cons, reaches]
  simp

end CheckOut

namespace MemoryStores

/-- The shelves at or under the paths of some items: each once, for the first item that reaches it,
by the order of these items and then of the keys. -/
structure Gathers (held : MemoryStores) (items : List CheckOutItem) (gathered : List Picked) :
    Prop where
  /-- Just the shelves at or under one of the paths are gathered. -/
  covers : ∀ key, key ∈ gathered.map Picked.key ↔
    ∃ entry, Table.get? held.nodes key = some entry ∧ entry.isShelf = true ∧
      ∃ item ∈ items, item.reaches key = true
  /-- Each is gathered for the first item that reaches it. -/
  first : ∀ picked ∈ gathered, items.find? (·.reaches picked.key) = some picked.item
  /-- Each is as it is registered and stored. -/
  stored : ∀ picked ∈ gathered, ∃ entry, Table.get? held.nodes picked.key = some entry ∧
    picked.candidate = held.candidate picked.item.path (picked.key, entry)
  /-- They come by the order of the items, and those for one item by the order of their keys. -/
  ordered : gathered.Pairwise fun left right =>
    CheckOut.rank items left.key < CheckOut.rank items right.key ∨
      CheckOut.rank items left.key = CheckOut.rank items right.key ∧ left.key < right.key

/-- What an item adds to shelves that have been gathered: those of its own that are not among
them. -/
def added (held : MemoryStores) (item : CheckOutItem) (gathered : List Picked) : List Picked :=
  ((held.candidates item.path).filter fun candidate =>
    candidate.key ∉ gathered.map Picked.key).map fun candidate => ⟨candidate, item⟩

/-- What is gathered for some items, one after another. -/
def gathered (held : MemoryStores) (items : List CheckOutItem) : List Picked :=
  items.foldl (fun all item => Library.addPicked item all (held.candidates item.path)) []

namespace Gathers

variable {held : MemoryStores} {items : List CheckOutItem} {gathered other : List Picked}

/-- No shelf is gathered twice. -/
theorem nodup (gathers : held.Gathers items gathered) : (gathered.map Picked.key).Nodup := by
  rw [List.Nodup, List.pairwise_map]
  refine gathers.ordered.imp fun {left right} before same => ?_
  rw [same] at before
  rcases before with earlier | ⟨-, smaller⟩
  · exact lt_irrefl _ earlier
  · exact lt_irrefl _ smaller

theorem eq_of_key_eq (gathers : held.Gathers items gathered) (gathers' : held.Gathers items other)
    {left right : Picked} (first : left ∈ gathered) (second : right ∈ other)
    (same : left.key = right.key) : left = right := by
  have item : left.item = right.item := by
    have chosen := gathers.first left first
    rw [same, gathers'.first right second] at chosen
    exact (Option.some.inj chosen).symm
  obtain ⟨entry, found, stored⟩ := gathers.stored left first
  obtain ⟨entry', found', stored'⟩ := gathers'.stored right second
  rw [same, found'] at found
  rw [same, item, ← Option.some.inj found, ← stored'] at stored
  exact congrArg₂ Picked.mk stored item

/-- There is one way to gather only. -/
theorem eq (gathers : held.Gathers items gathered) (gathers' : held.Gathers items other) :
    gathered = other := by
  have subset {left right : List Picked} (gathers : held.Gathers items left)
      (gathers' : held.Gathers items right) (picked : Picked) (member : picked ∈ left) :
      picked ∈ right := by
    have listed := (gathers.covers picked.key).mp (List.mem_map_of_mem member)
    obtain ⟨same, inside, keys⟩ := List.mem_map.mp ((gathers'.covers picked.key).mpr listed)
    exact eq_of_key_eq gathers gathers' member inside keys.symm ▸ inside
  have perm : gathered.Perm other := by
    rw [List.perm_ext_iff_of_nodup gathers.nodup.of_map gathers'.nodup.of_map]
    exact fun picked => ⟨subset gathers gathers' picked, subset gathers' gathers picked⟩
  refine List.Perm.eq_of_pairwise (fun left right _ _ before after => ?_) gathers.ordered
    gathers'.ordered perm
  rcases before with earlier | ⟨_, smaller⟩ <;> rcases after with later | ⟨_, greater⟩
  · omega
  · omega
  · omega
  · exact absurd (smaller.trans greater) (lt_irrefl _)

theorem nil (held : MemoryStores) : held.Gathers [] [] where
  covers := by simp
  first := by simp
  stored := by simp
  ordered := .nil

theorem reached (gathers : held.Gathers items gathered) {picked : Picked}
    (member : picked ∈ gathered) : ∃ item ∈ items, item.reaches picked.key = true := by
  obtain ⟨_, _, _, reached⟩ := (gathers.covers picked.key).mp (List.mem_map_of_mem member)
  exact reached

section Added

variable (tree : IsTree held.nodes) (gathers : held.Gathers items gathered) {item : CheckOutItem}

include tree gathers

/-- The shelves that are added for an item are those that it reaches and none before it. -/
theorem mem_added {picked : Picked} :
    picked ∈ held.added item gathered ↔ picked.item = item ∧
      (∃ entry, Table.get? held.nodes picked.key = some entry ∧ entry.isShelf = true ∧
        picked.candidate = held.candidate item.path (picked.key, entry)) ∧
      item.reaches picked.key = true ∧
        ∀ earlier ∈ items, earlier.reaches picked.key = false := by
  obtain ⟨candidate, chosen⟩ := picked
  have inside : ⟨candidate, chosen⟩ ∈ held.added item gathered ↔ chosen = item ∧
      candidate ∈ held.candidates item.path ∧ candidate.key ∉ gathered.map Picked.key := by
    simp only [added, List.mem_map, List.mem_filter, decide_eq_true_iff, Picked.mk.injEq]
    constructor
    · rintro ⟨_, fresh, rfl, rfl⟩
      exact ⟨rfl, fresh⟩
    · rintro ⟨rfl, fresh⟩
      exact ⟨candidate, fresh, rfl, rfl⟩
  rw [inside, mem_candidates tree.sorted, gathers.covers]
  refine and_congr_right fun _ => ?_
  constructor
  · rintro ⟨⟨entry, found, kind, within, same⟩, unseen⟩
    refine ⟨⟨entry, found, kind, same⟩, within, fun earlier listed => ?_⟩
    exact Bool.eq_false_of_not_eq_true fun reaches =>
      unseen ⟨entry, found, kind, earlier, listed, reaches⟩
  · rintro ⟨⟨entry, found, kind, same⟩, within, fresh⟩
    refine ⟨⟨entry, found, kind, within, same⟩, ?_⟩
    rintro ⟨_, -, -, earlier, listed, reaches⟩
    exact absurd reaches (Bool.eq_false_iff.mp (fresh earlier listed))

theorem rank_of_mem_added {picked : Picked} (member : picked ∈ held.added item gathered) :
    CheckOut.rank (items ++ [item]) picked.key = items.length := by
  obtain ⟨-, -, reaches, others⟩ := (mem_added tree gathers).mp member
  exact CheckOut.rank_concat_self others reaches

/-- The shelves with those of one item more are the ones that one of all items reaches. -/
theorem covers_added (key : String) :
    key ∈ (gathered ++ held.added item gathered).map Picked.key ↔
      ∃ entry, Table.get? held.nodes key = some entry ∧ entry.isShelf = true ∧
        ∃ reaching ∈ items ++ [item], reaching.reaches key = true := by
  rw [List.map_append, List.mem_append, gathers.covers]
  simp only [List.mem_append, List.mem_singleton]
  constructor
  · rintro (⟨entry, found, kind, earlier, listed, reaches⟩ | fresh)
    · exact ⟨entry, found, kind, earlier, .inl listed, reaches⟩
    · obtain ⟨picked, member, rfl⟩ := List.mem_map.mp fresh
      obtain ⟨-, ⟨entry, found, kind, -⟩, reaches, -⟩ := (mem_added tree gathers).mp member
      exact ⟨entry, found, kind, item, .inr rfl, reaches⟩
  · rintro ⟨entry, found, kind, reaching, listed, reaches⟩
    by_cases before : ∃ earlier ∈ items, earlier.reaches key = true
    · exact .inl ⟨entry, found, kind, before⟩
    · have own : item.reaches key = true := by
        rcases listed with earlier | rfl
        · exact absurd ⟨reaching, earlier, reaches⟩ before
        · exact reaches
      have others : ∀ earlier ∈ items, earlier.reaches key = false := fun earlier listed =>
        Bool.eq_false_of_not_eq_true fun reaches => before ⟨earlier, listed, reaches⟩
      have member : ⟨held.candidate item.path (key, entry), item⟩ ∈ held.added item gathered :=
        (mem_added tree gathers).mpr ⟨rfl, ⟨entry, found, kind, rfl⟩, own, others⟩
      exact .inr (List.mem_map.mpr ⟨_, member, rfl⟩)

/-- The shelves of one item more come after all others, in the order of their keys. -/
theorem ordered_added : (gathered ++ held.added item gathered).Pairwise fun left right =>
    CheckOut.rank (items ++ [item]) left.key < CheckOut.rank (items ++ [item]) right.key ∨
      CheckOut.rank (items ++ [item]) left.key = CheckOut.rank (items ++ [item]) right.key ∧
        left.key < right.key := by
  refine List.pairwise_append.mpr ⟨?_, ?_, fun left before right fresh => .inl ?_⟩
  · refine gathers.ordered.imp_of_mem fun {left right} first second => ?_
    rw [CheckOut.rank_concat (gathers.reached first), CheckOut.rank_concat (gathers.reached second)]
    exact id
  · have ordered : (held.added item gathered).Pairwise fun left right => left.key < right.key :=
      List.pairwise_map.mpr ((sorted_candidates tree.sorted item.path).filter _)
    refine ordered.imp_of_mem fun {left right} first second below => .inr ⟨?_, below⟩
    rw [rank_of_mem_added tree gathers first, rank_of_mem_added tree gathers second]
  · rw [CheckOut.rank_concat (gathers.reached before), rank_of_mem_added tree gathers fresh]
    exact CheckOut.rank_lt (gathers.reached before)

/-- After the candidates of one item more have been added, the shelves of one item more have been
gathered. -/
theorem concat : held.Gathers (items ++ [item])
    (Library.addPicked item gathered (held.candidates item.path)) := by
  rw [Library.addPicked_of_nodup item (nodup_candidates tree.sorted item.path)]
  change held.Gathers (items ++ [item]) (gathered ++ held.added item gathered)
  refine ⟨covers_added tree gathers, fun picked member => ?_, fun picked member => ?_,
    ordered_added tree gathers⟩
  · rcases List.mem_append.mp member with before | fresh
    · rw [List.find?_append, gathers.first picked before, Option.some_or]
    · obtain ⟨rfl, -, reaches, others⟩ := (mem_added tree gathers).mp fresh
      have none : items.find? (·.reaches picked.key) = none :=
        List.find?_eq_none.mpr fun earlier listed => by simp [others earlier listed]
      simp [List.find?_append, none, reaches]
  · rcases List.mem_append.mp member with before | fresh
    · exact gathers.stored picked before
    · obtain ⟨rfl, ⟨entry, found, -, same⟩, -⟩ := (mem_added tree gathers).mp fresh
      exact ⟨entry, found, same⟩

end Added

theorem of_tree (tree : IsTree held.nodes) (items : List CheckOutItem) :
    held.Gathers items (held.gathered items) := by
  suffices onward : ∀ (before after : List CheckOutItem) (gathered : List Picked),
      held.Gathers before gathered → held.Gathers (before ++ after)
        (after.foldl (fun all item => Library.addPicked item all (held.candidates item.path))
          gathered) from
    onward [] items [] (nil held)
  intro before after
  induction after generalizing before with
  | nil => exact fun gathered gathers => (List.append_nil before).symm ▸ gathers
  | cons item rest ih =>
      intro gathered gathers
      rw [List.append_cons]
      exact ih _ _ (gathers.concat tree)

theorem iff_eq (tree : IsTree held.nodes) :
    held.Gathers items gathered ↔ gathered = held.gathered items :=
  ⟨fun gathers => gathers.eq (of_tree tree items), fun same => same ▸ of_tree tree items⟩

end Gathers

/-! ## Sorting -/

section Criteria

variable (held : MemoryStores) (criteria : List SortItem)

/-- The order of two shelves: by the first criterion that tells apart what its path means for
them. -/
def compareBy (left right : Picked) : Ordering :=
  criteria.foldr (fun item rest => (item.compare (held.operand left.candidate item.path)
    (held.operand right.candidate item.path)).then rest) .eq

/-- What the paths of the criteria mean for a shelf. -/
def keysBy (picked : Picked) : SortItem.Keys criteria :=
  ⟨criteria.map fun item => held.operand picked.candidate item.path, List.length_map _⟩

theorem compareKeys_keysBy (left right : Picked) :
    SortItem.compareKeys criteria (held.keysBy criteria left) (held.keysBy criteria right) =
      held.compareBy criteria left right := by
  change SortItem.compareAll criteria (criteria.map _) (criteria.map _) = _
  unfold compareBy
  induction criteria with
  | nil => rfl
  | cons item rest ih => rw [List.map_cons, List.map_cons, SortItem.compareAll_cons, ih]; rfl

instance : Std.TransCmp (held.compareBy criteria) where
  eq_swap {left right} := by
    rw [← compareKeys_keysBy, ← compareKeys_keysBy]
    exact Std.OrientedCmp.eq_swap
  isLE_trans {first second third} := by
    rw [← compareKeys_keysBy, ← compareKeys_keysBy, ← compareKeys_keysBy]
    exact Std.TransCmp.isLE_trans

end Criteria

/-! ## The pipeline -/

/-- The shelves that a checkout is about in the order in which it shows them: those that its items
reach, as far as the filter keeps them, sorted. -/
def Lists (held : MemoryStores) (step : CheckOut) (listed : List Picked) : Prop :=
  ∃ gathered, held.Gathers step.items gathered ∧
    (∀ picked ∈ gathered, ∃ verdict, held.judge step.filters picked.candidate = .ok verdict) ∧
    IsStableSort (held.compareBy step.sort)
      (gathered.filter fun picked => held.keeps step.filters picked.candidate) listed

/-- The shelves of a checkout in their order, or the error of the first item without a node or of
the first shelf that cannot be judged. -/
def listing (held : MemoryStores) (step : CheckOut) : Except LibraryError (List Picked) := do
  let _ ← step.items.mapM fun item => (Namespace.ofTable held.nodes).resolve item.path
  let kept ← held.selection step.filters Picked.candidate (held.gathered step.items)
  return kept.mergeSort fun left right => (held.compareBy step.sort left right).isLE

variable {held : MemoryStores} {step : CheckOut} {listed other : List Picked}

/-- A checkout can be carried out: the path of each item leads to a node, and the filter can be
judged for each shelf that the items reach. -/
structure Admits (held : MemoryStores) (step : CheckOut) : Prop where
  /-- The path of each item leads to a node. -/
  resolved : ∀ item ∈ step.items,
    ∃ entry, (Namespace.ofTable held.nodes).resolve item.path = .ok entry
  /-- The filter can be judged for each shelf. -/
  judged : ∀ gathered, held.Gathers step.items gathered → ∀ picked ∈ gathered,
    ∃ verdict, held.judge step.filters picked.candidate = .ok verdict

theorem exists_listing_iff (tree : IsTree held.nodes) :
    (∃ listed, held.listing step = .ok listed) ↔ held.Admits step := by
  simp only [listing, Result.bind_eq_ok, selection_eq_ok]
  constructor
  · rintro ⟨listed, entries, resolved, kept, ⟨judged, rfl⟩, -⟩
    exact ⟨Result.exists_mapM_iff.mp ⟨entries, resolved⟩,
      fun gathered gathers => (Gathers.iff_eq tree).mp gathers ▸ judged⟩
  · rintro ⟨resolved, judged⟩
    obtain ⟨entries, resolved⟩ := Result.exists_mapM_iff.mpr resolved
    exact ⟨_, entries, resolved, _, ⟨judged _ (.of_tree tree _), rfl⟩, rfl⟩

theorem lists_iff_eq (tree : IsTree held.nodes) (made : held.listing step = .ok listed) :
    held.Lists step other ↔ other = listed := by
  obtain ⟨_, -, made⟩ := Result.bind_eq_ok.mp made
  obtain ⟨kept, selected, same⟩ := Result.bind_eq_ok.mp made
  obtain ⟨judged, rfl⟩ := selection_eq_ok.mp selected
  obtain rfl := Except.ok.inj same
  unfold Lists
  simp only [Gathers.iff_eq tree, isStableSort_iff]
  constructor
  · rintro ⟨_, rfl, -, same⟩
    exact same
  · exact fun same => ⟨_, rfl, judged, same⟩

/-- No shelf is listed twice. -/
theorem Lists.nodup (lists : held.Lists step listed) : (listed.map Picked.key).Nodup := by
  obtain ⟨gathered, gathers, -, sorts⟩ := lists
  exact (sorts.perm.map Picked.key).nodup_iff.mpr
    (gathers.nodup.sublist (List.filter_sublist.map Picked.key))

/-- A row shows a shelf as the item asks for it: with all its fields, or with just those that are
selected, an absent one as null. -/
structure Projects (held : MemoryStores) (picked : Picked) (row : Row) : Prop where
  /-- The row has the key of the shelf. -/
  path_eq : row.path = picked.key
  /-- It shows the whole record, -/
  whole : picked.item.selectsAll = true → row.data = (held.storedAt picked.key).data
  /-- or the selected fields. -/
  fields : picked.item.selectsAll = false → ∀ field, Table.get? row.data field =
    if field ∈ picked.item.selection then some ((picked.candidate.local? field).getD .null)
    else none

theorem Lists.projects (lists : held.Lists step listed) {picked : Picked}
    (member : picked ∈ listed) : held.Projects picked picked.row := by
  obtain ⟨gathered, gathers, -, sorts⟩ := lists
  obtain ⟨entry, -, stored⟩ :=
    gathers.stored picked (List.mem_filter.mp (sorts.perm.mem_iff.mp member)).1
  have record : picked.candidate.record = (held.storedAt picked.key).data :=
    congrArg Candidate.record stored
  unfold Picked.row
  refine ⟨?_, fun all => ?_, fun some field => ?_⟩
  · split <;> rfl
  · rw [if_pos all, record]
  · rw [if_neg (Bool.eq_false_iff.mp some)]
    exact Table.get?_ofEntries_map _ _ _

end MemoryStores

/-! ## Pages -/

theorem Library.page_eq {α : Type} (offset limit : Option Nat) (items : List α) :
    page offset limit items =
      (items.drop (offset.getD 0)).take (limit.getD items.length) := by
  cases limit with
  | none => exact (List.take_of_length_le (List.drop_sublist _ items).length_le).symm
  | some count => rfl

/-- The page of a checkout with some number, where every page has the same size. -/
def CheckOut.paged (step : CheckOut) (size number : Nat) : CheckOut :=
  { step with limit := some size, offset := some (number * size) }

/-- Pages one after another make up the beginning of the whole. -/
theorem Library.flatten_pages {α : Type} (size count : Nat) (items : List α) :
    ((List.range count).map fun number => page (some (number * size)) (some size) items).flatten =
      items.take (count * size) := by
  induction count with
  | zero => simp
  | succ count ih =>
      rw [List.range_succ, List.map_append, List.flatten_append, ih, Nat.succ_mul, List.take_add]
      simp [page]

namespace Library

open Session

variable {library : Library} {held : MemoryStores}

section Finding

variable (shows : library.Shows held)

include shows

theorem finds_gatherItems (gathered : List Picked) (items : List CheckOutItem) :
    Finds library held (gatherItems gathered items)
      ((items.mapM fun item => (Namespace.ofTable held.nodes).resolve item.path).map fun _ =>
        items.foldl (fun all item => addPicked item all (held.candidates item.path))
          gathered) := by
  induction items generalizing gathered with
  | nil => exact .pure _
  | cons item rest ih =>
      have gathers := finds_gather shows item.path
      rw [List.mapM_cons]
      cases resolved : (Namespace.ofTable held.nodes).resolve item.path with
      | error e =>
          rw [resolved] at gathers
          exact gathers.bind_error
      | ok entry =>
          rw [resolved] at gathers
          have others : Finds library held (gatherItems gathered (item :: rest)) _ :=
            gathers.bind_ok (ih (addPicked item gathered (held.candidates item.path)))
          cases made : rest.mapM fun item => (Namespace.ofTable held.nodes).resolve item.path <;>
            rw [made] at others <;> exact others

theorem finds_selectPicked (filters : Filters) (all : List Picked) :
    Finds library held (selectPicked filters all)
      (held.selection (some filters) Picked.candidate all) := by
  induction all with
  | nil => exact .pure _
  | cons picked rest ih =>
      rw [MemoryStores.selection_cons]
      exact (finds_judge shows filters picked.candidate).bind fun keep _ => ih.map _

theorem finds_sortPicked (criteria : List SortItem) (all : List Picked) :
    Finds library held (sortPicked criteria all)
      (.ok (all.mergeSort fun left right => (held.compareBy criteria left right).isLE)) := by
  let keyed (picked : Picked) : List Value × Picked := ((held.keysBy criteria picked).1, picked)
  have finds : Finds library held
      (all.mapM fun picked => do return (← sortKeys criteria picked, picked))
      (.ok (all.map keyed)) :=
    .mapM fun picked _ => (Finds.mapM fun item _ =>
      finds_operand shows picked.candidate item.path).bind_ok (.pure _)
  have same : ((all.map keyed).mergeSort fun left right =>
        (SortItem.compareAll criteria left.1 right.1).isLE).map Prod.snd =
      all.mergeSort fun left right => (held.compareBy criteria left right).isLE := by
    rw [← List.map_mergeSort (r := fun left right => (held.compareBy criteria left right).isLE),
      List.map_map]
    · exact List.map_id _
    · intro left _ right _
      rw [← held.compareKeys_keysBy criteria]
      rfl
  rw [← same]
  exact finds.bind_ok (.pure _)

/-- A checkout finds a page of what it lists. -/
theorem finds_readRows (step : CheckOut) :
    Finds library held (readRows step) ((held.listing step).map fun listed =>
      (page step.offset step.limit listed).map Picked.row) := by
  let finish (sorted : List Picked) : Session.Task (List Row) :=
    pure ((page step.offset step.limit sorted).map Picked.row)
  let sorted (kept : List Picked) : List Picked :=
    kept.mergeSort fun left right => (held.compareBy step.sort left right).isLE
  have sorting (kept : List Picked) : Finds library held
      (if step.sort.isEmpty then pure kept >>= finish else sortPicked step.sort kept >>= finish)
      (.ok ((page step.offset step.limit (sorted kept)).map Picked.row)) := by
    split
    · rename_i none
      -- Without criteria everything is in order as it stands.
      have same : sorted kept = kept := by
        refine List.mergeSort_of_pairwise (List.pairwise_of_forall fun left right => ?_)
        rw [List.isEmpty_iff.mp none]
        rfl
      rw [same]
      exact .pure _
    · exact (finds_sortPicked shows step.sort kept).bind_ok (.pure _)
  have gathers := finds_gatherItems shows [] step.items
  unfold MemoryStores.listing
  cases resolved : step.items.mapM fun item =>
    (Namespace.ofTable held.nodes).resolve item.path with
  | error e =>
      rw [resolved] at gathers
      exact gathers.bind_error
  | ok _ =>
      rw [resolved] at gathers
      refine gathers.bind_ok ?_
      cases given : step.filters with
      | none =>
          have all : held.selection none Picked.candidate (held.gathered step.items) =
            .ok (held.gathered step.items) := MemoryStores.selection_none _ _
          rw [all]
          exact sorting _
      | some filters =>
          have selects := finds_selectPicked shows filters (held.gathered step.items)
          cases selected : held.selection (some filters) Picked.candidate
            (held.gathered step.items) with
          | error e =>
              rw [selected] at selects
              exact selects.bind_error
          | ok kept =>
              rw [selected] at selects
              exact selects.bind_ok (sorting kept)

end Finding

/-- What a checkout answers. -/
def rowsOf (step : CheckOut) (listed : List Picked) : Outcome :=
  .checkedOut ((page step.offset step.limit listed).map Picked.row)

variable {σ : Type} {stores : Stores σ} {view : σ → MemoryStores}

/-- A checkout answers with a page of what it lists, and changes nothing. -/
theorem runOn_checkOut (faithful : stores.AreFaithful view) {world : σ}
    (mirrors : library.Mirrors (view world)) (step : CheckOut) :
    Prod.map id (Prod.map id view)
        ((execute (.single (.checkOut step))).runOn stores library world) =
      (((view world).listing step).map (rowsOf step), library, view world) := by
  have attains : Action.Attains (perform (.checkOut step)) library (view world)
      fun ended library' held => ended = ((view world).listing step).map (rowsOf step) ∧
        library' = library ∧ held = view world := by
    refine Action.ends_bind.mpr ((finds_readRows mirrors.shows step).once.imp ?_)
    rintro _ library held ⟨rfl, rfl, rfl⟩
    cases (view world).listing step <;> exact ⟨rfl, rfl, rfl⟩
  obtain ⟨ended, same, unchanged⟩ := attains.runOn
  rw [runOn_execute faithful mirrors]
  exact Prod.ext ended (Prod.ext same unchanged)

/-- Checkouts one after another answer as each would by itself. -/
theorem results_checkOuts (faithful : stores.AreFaithful view) {world : σ}
    (mirrors : library.Mirrors (view world)) (steps : List CheckOut) :
    results stores (library, world) (steps.map fun step => .single (.checkOut step)) =
      steps.map fun step => ((view world).listing step).map (rowsOf step) := by
  induction steps generalizing world with
  | nil => rfl
  | cons step rest ih =>
      have ended := runOn_checkOut faithful mirrors step
      rw [List.map_cons, List.map_cons, results]
      generalize (execute (.single (.checkOut step))).runOn stores library world = reached at ended
      obtain ⟨result, after, last⟩ := reached
      obtain ⟨rfl, later⟩ := Prod.mk.inj ended
      obtain ⟨rfl, same⟩ := Prod.mk.inj later
      exact congrArg _ (same ▸ ih (same ▸ mirrors))

/-- A checkout that can be carried out succeeds, and no other one.  It answers with the shelves that
its items reach, each once and in the order of the items and of the keys, filtered and stably
sorted, from which some are skipped and at most so many are taken, each as its first item asks for
it; it changes nothing; and pages of any size, one after another, make up the whole. -/
theorem checkOut_lists (faithful : stores.AreFaithful view) {world : σ}
    (mirrors : library.Mirrors (view world)) (step : CheckOut) :
    let after := (execute (.single (.checkOut step))).runOn stores library world
    after.2.1 = library ∧ view after.2.2 = view world ∧
      ((∃ outcome, after.1 = .ok outcome) ↔ (view world).Admits step) ∧
      ∀ outcome, after.1 = .ok outcome → ∃ listed : List Picked,
        (∀ other, (view world).Lists step other ↔ other = listed) ∧
        (listed.map Picked.key).Nodup ∧
        (∀ picked ∈ listed, (view world).Projects picked picked.row) ∧
        outcome = .checkedOut (((listed.drop (step.offset.getD 0)).take
          (step.limit.getD listed.length)).map Picked.row) ∧
        ∀ size count, ∃ pages : List (List Row),
          results stores (library, world) ((List.range count).map fun number =>
            .single (.checkOut (step.paged size number))) =
              pages.map (fun rows => .ok (.checkedOut rows)) ∧
            pages.flatten = (listed.take (count * size)).map Picked.row := by
  have tree := mirrors.consistent.tree
  have ended := runOn_checkOut faithful mirrors step
  dsimp only
  rw [← MemoryStores.exists_listing_iff tree]
  generalize (execute (.single (.checkOut step))).runOn stores library world = reached at ended ⊢
  obtain ⟨result, after, last⟩ := reached
  obtain ⟨rfl, later⟩ := Prod.mk.inj ended
  obtain ⟨unchanged, same⟩ := Prod.mk.inj later
  refine ⟨unchanged, same, ?_, fun outcome answered => ?_⟩
  · simp only [Result.map_eq_ok]
    exact ⟨fun ⟨_, listed, made, _⟩ => ⟨listed, made⟩, fun ⟨listed, made⟩ => ⟨_, listed, made, rfl⟩⟩
  obtain ⟨listed, made, rfl⟩ := Result.map_eq_ok.mp answered
  have lists (other : List Picked) : (view world).Lists step other ↔ other = listed :=
    MemoryStores.lists_iff_eq tree made
  have itself : (view world).Lists step listed := (lists listed).mpr rfl
  refine ⟨listed, lists, itself.nodup, fun picked => itself.projects, ?_, fun size count => ?_⟩
  · rw [rowsOf, page_eq]
  · refine ⟨(List.range count).map fun number =>
      (page (some (number * size)) (some size) listed).map Picked.row, ?_, ?_⟩
    · have all := results_checkOuts faithful mirrors
        ((List.range count).map fun number => step.paged size number)
      rw [List.map_map] at all
      refine all.trans ?_
      rw [List.map_map, List.map_map]
      refine List.map_congr_left fun number _ => ?_
      have alike : (view world).listing (step.paged size number) = .ok listed := made
      rw [Function.comp_apply, alike]
      rfl
    · rw [← flatten_pages size count listed, List.map_flatten, List.map_map]
      rfl

/-- A library with three pens, two of which cost the same. -/
private def pencilCase : Library × MemoryStores :=
  runAll MemoryStores.answer (.empty, .empty)
    [.single (.buildSection ⟨none, "pens", none, none⟩),
      .single (.buildShelf ⟨some "pens", "blue", none, none⟩),
      .single (.write ⟨"pens.blue", [("cost", .int 2)]⟩),
      .single (.buildShelf ⟨some "pens", "green", none, none⟩),
      .single (.write ⟨"pens.green", [("cost", .int 1)]⟩),
      .single (.buildShelf ⟨some "pens", "red", none, none⟩),
      .single (.write ⟨"pens.red", [("cost", .int 2), ("nib", .int 5)]⟩)]

/-- The red pen is asked for first, so that it stays before the blue one when the dear pens come
first; of it one field only is shown, although all pens are asked for later. -/
theorem checkOut_lists_pens :
    let step : CheckOut := ⟨[⟨"pens.red", ["cost"]⟩, ⟨"pens", [everyField]⟩], none,
      [⟨"cost", .descending⟩], some 2, none⟩
    let after := (execute (.single (.checkOut step))).runOn MemoryStores.answer pencilCase.1
      pencilCase.2
    Stores.AreFaithful MemoryStores.answer id ∧ pencilCase.1.Mirrors pencilCase.2 ∧
      ∃ (rows : List Row) (pages : List (List Row)), after.1 = .ok (.checkedOut rows) ∧
        (rows.map fun row => (row.path, Table.keys row.data)) =
          [("pens.red", ["cost"]), ("pens.blue", ["cost"])] ∧
        results MemoryStores.answer pencilCase ((List.range 2).map fun number =>
          .single (.checkOut (step.paged 2 number))) =
            pages.map (fun rows => .ok (.checkedOut rows)) ∧
          pages.flatten.map Row.path = ["pens.red", "pens.blue", "pens.green"] := by
  intro step after
  have faithful := Stores.areFaithful_memory
  have mirrors : pencilCase.1.Mirrors pencilCase.2 :=
    Mirrors.runAll faithful mirrors_empty _
  have succeeds : after.1.toOption.any fun _ => true := by
    decide +kernel
  obtain ⟨outcome, done, -⟩ : ∃ outcome, after.1 = .ok outcome ∧ True :=
    Result.exists_of_any succeeds
  obtain ⟨listed, lists, -, -, answered, paged⟩ :=
    (checkOut_lists faithful mirrors step).2.2.2 outcome done
  obtain ⟨pages, answers, whole⟩ := paged 2 2
  -- What is gathered is in order as it stands.
  have ordered : (pencilCase.2.gathered step.items).Pairwise fun left right =>
      pencilCase.2.compareBy step.sort left right ≠ .gt := by
    decide +kernel
  have same : pencilCase.2.gathered step.items = listed := by
    refine (lists _).mp ⟨_, .of_tree mirrors.consistent.tree _, fun _ _ => ⟨true, rfl⟩, ?_⟩
    have all : (pencilCase.2.gathered step.items).filter (fun picked =>
        pencilCase.2.keeps step.filters picked.candidate) = pencilCase.2.gathered step.items :=
      List.filter_eq_self.mpr fun _ _ => rfl
    rw [id_eq, all]
    exact .of_ordered ordered
  refine ⟨faithful, mirrors, _, pages, done.trans (congrArg _ answered), ?_, answers, ?_⟩
  · rw [← same]
    decide +kernel
  · rw [whole, ← same]
    decide +kernel

end Library

end ShelfLibrary
