import Mathlib.Data.String.Basic
import Mathlib.Tactic
import ShelfLibrary.Table

/-!
# Tables in key order

Operations keep a table in key order, and a table in key order is determined by its view
`Table.get?`: two of them with the same view are the same list.
-/

namespace ShelfLibrary.Table

variable {α β : Type}

theorem get?_insert (table : Table α) (key other : String) (value : α) :
    get? (insert table key value) other = if key = other then some value else get? table other := by
  by_cases same : key = other
  · subst same
    simp
  · rw [if_neg same, get?_insert_of_ne table value same]

theorem get?_erase (table : Table α) (key other : String) :
    get? (erase table key) other = if key = other then none else get? table other := by
  by_cases same : key = other
  · subst same
    simp
  · rw [if_neg same, get?_erase_of_ne table same]

theorem mem_of_get? {table : Table α} {key : String} {value : α}
    (found : get? table key = some value) : (key, value) ∈ table := by
  induction table with
  | nil => simp at found
  | cons entry rest ih =>
      obtain ⟨name, old⟩ := entry
      by_cases same : name = key
      · simp_all [get?_cons]
      · rw [get?_cons, if_neg same] at found
        exact List.mem_cons_of_mem _ (ih found)

theorem get?_eq_none_iff {table : Table α} {key : String} :
    get? table key = none ↔ ∀ entry ∈ table, entry.1 ≠ key := by
  induction table with
  | nil => simp
  | cons entry rest ih =>
      obtain ⟨name, old⟩ := entry
      by_cases same : name = key <;> simp [get?_cons, same, ih]

theorem mem_keys_iff {table : Table α} {key : String} :
    key ∈ keys table ↔ (get? table key).isSome = true := by
  rw [← not_iff_not, Option.not_isSome_iff_eq_none, get?_eq_none_iff]
  exact ⟨fun apart entry member same => apart (same ▸ List.mem_map_of_mem member),
    fun apart inside => (List.mem_map.mp inside).elim fun entry held => apart entry held.1 held.2⟩

theorem contains_iff {table : Table α} {key : String} :
    contains table key = true ↔ ∃ value, get? table key = some value := by
  rw [contains, Option.isSome_iff_exists]

theorem contains_eq_false_iff {table : Table α} {key : String} :
    contains table key = false ↔ get? table key = none := by
  rw [contains, Option.isSome_eq_false_iff, Option.isNone_iff_eq_none]

/-! ## Order -/

@[simp]
theorem sorted_nil : Sorted ([] : Table α) := List.Pairwise.nil

theorem sorted_cons {entry : String × α} {table : Table α} :
    Sorted (entry :: table) ↔ (∀ other ∈ table, entry.1 < other.1) ∧ Sorted table :=
  List.pairwise_cons

theorem mem_insert {table : Table α} {key : String} {value : α} {entry : String × α}
    (member : entry ∈ insert table key value) : entry = (key, value) ∨ entry ∈ table := by
  induction table with
  | nil => simpa [insert] using member
  | cons head rest ih =>
      obtain ⟨name, old⟩ := head
      unfold insert at member
      split at member
      · simpa using member
      · split at member
        · rcases List.mem_cons.mp member with fresh | kept
          · exact .inl fresh
          · exact .inr (List.mem_cons_of_mem _ kept)
        · rcases List.mem_cons.mp member with kept | later
          · exact .inr (by simp [kept])
          · exact (ih later).imp_right (List.mem_cons_of_mem _)

theorem sorted_insert {table : Table α} (sorted : Sorted table) (key : String) (value : α) :
    Sorted (insert table key value) := by
  induction table with
  | nil => simp [insert, sorted_cons]
  | cons head rest ih =>
      obtain ⟨name, old⟩ := head
      obtain ⟨below, restSorted⟩ := sorted_cons.mp sorted
      unfold insert
      split
      · rename_i before
        refine sorted_cons.mpr ⟨fun other member => ?_, sorted⟩
        rcases List.mem_cons.mp member with rfl | later
        · exact before
        · exact before.trans (below other later)
      · split
        · rename_i same
          subst same
          exact sorted_cons.mpr ⟨below, restSorted⟩
        · rename_i notBefore different
          have after : name < key := lt_of_le_of_ne (not_lt.mp notBefore) different
          refine sorted_cons.mpr ⟨fun other member => ?_, ih restSorted⟩
          rcases mem_insert member with rfl | old
          · exact after
          · exact below other old

theorem length_insert_le (table : Table α) (key : String) (value : α) :
    (insert table key value).length ≤ table.length + 1 := by
  induction table with
  | nil => rfl
  | cons entry rest ih =>
      obtain ⟨name, old⟩ := entry
      unfold insert
      split
      · rfl
      · split
        · exact Nat.le_succ _
        · exact Nat.succ_le_succ ih

theorem sorted_filter {table : Table α} (sorted : Sorted table) (keep : String × α → Bool) :
    Sorted (table.filter keep) :=
  List.Pairwise.filter keep sorted

theorem sorted_erase {table : Table α} (sorted : Sorted table) (key : String) :
    Sorted (erase table key) :=
  sorted_filter sorted _

theorem sorted_overwrite {table : Table α} (sorted : Sorted table) (changes : Table α) :
    Sorted (overwrite table changes) := by
  unfold overwrite
  induction changes generalizing table with
  | nil => exact sorted
  | cons change rest ih => exact ih (sorted_insert sorted change.1 change.2)

theorem sorted_ofEntries (entries : List (String × α)) : Sorted (ofEntries entries) :=
  sorted_overwrite sorted_nil entries

theorem nodup_keys {table : Table α} (sorted : Sorted table) : (keys table).Nodup := by
  rw [keys, List.Nodup, List.pairwise_map]
  exact sorted.imp fun before => before.ne

theorem get?_of_mem_of_nodup {table : Table α} (distinct : (keys table).Nodup) {key : String}
    {value : α} (member : (key, value) ∈ table) : get? table key = some value := by
  induction table with
  | nil => simp at member
  | cons head rest ih =>
      obtain ⟨fresh, others⟩ := List.nodup_cons.mp distinct
      rcases List.mem_cons.mp member with rfl | later
      · simp [get?_cons]
      · have different : head.1 ≠ key :=
          fun same => fresh (List.mem_map.mpr ⟨(key, value), later, same.symm⟩)
        rw [get?_cons, if_neg different]
        exact ih others later

theorem get?_of_mem {table : Table α} (sorted : Sorted table) {key : String} {value : α}
    (member : (key, value) ∈ table) : get? table key = some value :=
  get?_of_mem_of_nodup (nodup_keys sorted) member

theorem get?_eq_some_iff {table : Table α} (sorted : Sorted table) {key : String} {value : α} :
    get? table key = some value ↔ (key, value) ∈ table :=
  ⟨mem_of_get?, get?_of_mem sorted⟩

theorem ext_of_sorted {left right : Table α} (leftSorted : Sorted left)
    (rightSorted : Sorted right) (same : ∀ key, get? left key = get? right key) :
    left = right := by
  have distinct {table : Table α} (sorted : Sorted table) : table.Nodup :=
    sorted.imp fun before same => before.ne (congrArg Prod.fst same)
  have perm : left.Perm right := by
    rw [List.perm_ext_iff_of_nodup (distinct leftSorted) (distinct rightSorted)]
    rintro ⟨key, value⟩
    rw [← get?_eq_some_iff leftSorted, ← get?_eq_some_iff rightSorted, same]
  refine List.Perm.eq_of_pairwise (fun a b _ _ before after => ?_) leftSorted rightSorted perm
  exact absurd (before.trans after) (lt_irrefl _)

theorem get?_filter_keys (table : Table α) (keep : String → Bool) (key : String) :
    get? (table.filter fun entry => keep entry.1) key =
      if keep key then get? table key else none := by
  induction table with
  | nil => simp
  | cons entry rest ih =>
      obtain ⟨name, value⟩ := entry
      by_cases same : name = key
      · subst same
        cases kept : keep name <;> simp [kept, get?_cons, ih]
      · cases kept : keep name <;> simp [kept, get?_cons, same, ih]

theorem erase_eq_self {table : Table α} {key : String} (absent : get? table key = none) :
    erase table key = table :=
  List.filter_eq_self.mpr fun entry member =>
    decide_eq_true (get?_eq_none_iff.mp absent entry member)

theorem erase_insert {table : Table α} (sorted : Sorted table) {key : String}
    (absent : get? table key = none) (value : α) : erase (insert table key value) key = table := by
  refine ext_of_sorted (sorted_erase (sorted_insert sorted key value) key) sorted fun other => ?_
  rw [get?_erase, get?_insert]
  split
  · rename_i same
    rw [← same, absent]
  · rfl

/-- A table without some keys. -/
def eraseAll (table : Table α) (gone : List String) : Table α :=
  gone.foldl erase table

@[simp]
theorem eraseAll_nil (table : Table α) : eraseAll table [] = table := rfl

@[simp]
theorem eraseAll_cons (table : Table α) (key : String) (gone : List String) :
    eraseAll table (key :: gone) = eraseAll (erase table key) gone := rfl

theorem get?_eraseAll (table : Table α) (gone : List String) (key : String) :
    get? (eraseAll table gone) key = if key ∈ gone then none else get? table key := by
  induction gone generalizing table with
  | nil => simp
  | cons first rest ih =>
      rw [eraseAll_cons, ih, get?_erase]
      by_cases later : key ∈ rest
      · simp [later]
      · by_cases same : first = key
        · simp [same]
        · simp [later, same, Ne.symm same]

theorem get?_eraseAll_eq_some {table : Table α} {gone : List String} {key : String} {value : α} :
    get? (eraseAll table gone) key = some value ↔ get? table key = some value ∧ key ∉ gone := by
  rw [get?_eraseAll]
  by_cases removed : key ∈ gone <;> simp [removed]

theorem contains_eraseAll (table : Table α) (gone : List String) (key : String) :
    contains (eraseAll table gone) key = true ↔ contains table key = true ∧ key ∉ gone := by
  simp only [contains_iff, get?_eraseAll_eq_some, exists_and_right]

theorem sorted_eraseAll {table : Table α} (sorted : Sorted table) (gone : List String) :
    Sorted (eraseAll table gone) := by
  induction gone generalizing table with
  | nil => exact sorted
  | cons first rest ih => exact ih (sorted_erase sorted first)

/-! ## Overwriting again -/

theorem insert_insert (table : Table α) (key : String) (value later : α) :
    insert (insert table key value) key later = insert table key later := by
  induction table with
  | nil => simp [insert]
  | cons entry rest ih =>
      obtain ⟨name, old⟩ := entry
      by_cases before : key < name
      · simp [insert, before]
      · by_cases same : name = key
        · simp [insert, same]
        · simp [insert, before, same, ih]

/-- Of two different keys the smaller one goes first, whichever is stored first. -/
theorem insert_comm_of_lt (table : Table α) {low high : String} (below : low < high)
    (value other : α) :
    insert (insert table low value) high other = insert (insert table high other) low value := by
  have after : ¬high < low := below.asymm
  induction table with
  | nil => simp [insert, below, after, below.ne]
  | cons entry rest ih =>
      obtain ⟨name, old⟩ := entry
      rcases lt_trichotomy low name with before | rfl | beyond
      · -- The smaller key goes to the front.
        rcases lt_trichotomy high name with first | rfl | last
        · simp [insert, before, first, below, after, below.ne]
        · simp [insert, before, after, below.ne]
        · simp [insert, before, last.asymm, last.ne, after, below.ne]
      · simp [insert, after, below.ne]
      · have beneath : name < high := beyond.trans below
        simp [insert, beyond.asymm, beyond.ne, beneath.asymm, beneath.ne, ih]

theorem insert_comm (table : Table α) {key other : String} (different : key ≠ other)
    (value later : α) :
    insert (insert table key value) other later = insert (insert table other later) key value := by
  rcases lt_or_gt_of_ne different with below | above
  · exact insert_comm_of_lt table below value later
  · exact (insert_comm_of_lt table above later value).symm

@[simp]
theorem overwrite_nil (table : Table α) : overwrite table [] = table := rfl

@[simp]
theorem overwrite_cons (table : Table α) (entry : String × α) (changes : Table α) :
    overwrite table (entry :: changes) =
      overwrite (insert table entry.1 entry.2) changes := rfl

/-- What is stored under a key counts for nothing if the key is overwritten. -/
theorem overwrite_insert_of_mem {changes : Table α} {key : String} (listed : key ∈ keys changes)
    (table : Table α) (value : α) :
    overwrite (insert table key value) changes = overwrite table changes := by
  induction changes generalizing table with
  | nil => cases listed
  | cons change rest ih =>
      rw [overwrite_cons, overwrite_cons]
      by_cases same : key = change.1
      · rw [same, insert_insert]
      · rw [insert_comm table same, ih ((List.mem_cons.mp listed).resolve_left same)]

/-- Overwriting a table twice is overwriting it once. -/
theorem overwrite_overwrite (table changes : Table α) :
    overwrite (overwrite table changes) changes = overwrite table changes := by
  have onward (first : Table α) (listed : ∀ key ∈ keys first, key ∈ keys changes)
      (table : Table α) : overwrite (overwrite table first) changes = overwrite table changes := by
    induction first generalizing table with
    | nil => rfl
    | cons change rest ih =>
        rw [overwrite_cons, ih fun key member => listed key (List.mem_cons_of_mem _ member),
          overwrite_insert_of_mem (listed change.1 List.mem_cons_self)]
  exact onward changes (fun _ member => member) table

/-- A key is found with what it is overwritten with, or with what it has been. -/
theorem get?_overwrite (table changes : Table α) (key : String) :
    get? (overwrite table changes) key = (get? (ofEntries changes) key).or (get? table key) := by
  induction changes using List.reverseRecOn with
  | nil => rfl
  | append_singleton earlier last ih =>
      have once (table : Table α) : overwrite table (earlier ++ [last]) =
          insert (overwrite table earlier) last.1 last.2 :=
        List.foldl_append
      rw [ofEntries, once, once, get?_insert, get?_insert, ih, ofEntries]
      split <;> rfl

/-! ## Entries under different keys -/

theorem get?_overwrite_of_nodup {changes : Table α} (distinct : (keys changes).Nodup)
    (table : Table α) (key : String) :
    get? (overwrite table changes) key = (get? changes key).or (get? table key) := by
  unfold overwrite
  induction changes generalizing table with
  | nil => simp
  | cons change rest ih =>
      obtain ⟨name, value⟩ := change
      obtain ⟨fresh, others⟩ := List.nodup_cons.mp distinct
      rw [List.foldl_cons, ih others, get?_cons, get?_insert]
      by_cases same : name = key
      · subst same
        have later : get? rest name = none :=
          get?_eq_none_iff.mpr fun entry member same =>
            fresh (List.mem_map.mpr ⟨entry, member, same⟩)
        simp [later]
      · simp [same]

theorem mem_of_mem_overwrite {table changes : Table α} {entry : String × α}
    (member : entry ∈ overwrite table changes) : entry ∈ table ∨ entry ∈ changes := by
  unfold overwrite at member
  induction changes generalizing table with
  | nil => exact .inl member
  | cons change rest ih =>
      rcases ih member with inserted | later
      · rcases mem_insert inserted with rfl | old
        · exact .inr List.mem_cons_self
        · exact .inl old
      · exact .inr (List.mem_cons_of_mem change later)

theorem mem_of_mem_ofEntries {entries : List (String × α)} {entry : String × α}
    (member : entry ∈ ofEntries entries) : entry ∈ entries :=
  (mem_of_mem_overwrite member).resolve_left List.not_mem_nil

theorem get?_ofEntries {entries : List (String × α)} (distinct : (keys entries).Nodup)
    (key : String) : get? (ofEntries entries) key = get? entries key := by
  rw [ofEntries, get?_overwrite_of_nodup distinct, get?_nil, Option.or_none]

/-- What is said of keys is found under them, also if a key stands several times. -/
theorem get?_ofEntries_map (f : String → α) (names : List String) (key : String) :
    get? (ofEntries (names.map fun name => (name, f name))) key =
      if key ∈ names then some (f key) else none := by
  have onward (table : Table α) :
      get? (overwrite table (names.map fun name => (name, f name))) key =
        if key ∈ names then some (f key) else get? table key := by
    unfold overwrite
    induction names generalizing table with
    | nil => rfl
    | cons name rest ih =>
        rw [List.map_cons, List.foldl_cons, ih, get?_insert]
        by_cases later : key ∈ rest
        · simp [later]
        · by_cases same : name = key
          · simp [same]
          · simp [later, same, Ne.symm same]
  exact onward []

theorem mem_ofEntries {entries : List (String × α)} (distinct : (keys entries).Nodup)
    {entry : String × α} : entry ∈ ofEntries entries ↔ entry ∈ entries := by
  refine ⟨mem_of_mem_ofEntries, fun member => mem_of_get? ?_⟩
  rw [get?_ofEntries distinct]
  exact get?_of_mem_of_nodup distinct member

theorem ofEntries_of_sorted {table : Table α} (sorted : Sorted table) :
    ofEntries table = table := by
  refine ext_of_sorted (sorted_ofEntries table) sorted fun key => ?_
  exact get?_ofEntries (nodup_keys sorted) key

/-! ## Images of values -/

theorem get?_mapValues (f : α → β) (table : Table α) (key : String) :
    get? (mapValues f table) key = (get? table key).map f := by
  induction table with
  | nil => rfl
  | cons entry rest ih =>
      obtain ⟨name, value⟩ := entry
      by_cases same : name = key
      · simp [mapValues, get?_cons, same]
      · simpa [mapValues, get?_cons, same] using ih

theorem mapValues_insert (f : α → β) (table : Table α) (key : String) (value : α) :
    mapValues f (insert table key value) = insert (mapValues f table) key (f value) := by
  induction table with
  | nil => rfl
  | cons entry rest ih =>
      obtain ⟨name, old⟩ := entry
      by_cases before : key < name
      · simp only [mapValues, insert, before, if_true, List.map_cons]
      · by_cases same : name = key
        · simp only [mapValues, insert, same, lt_irrefl, if_false, if_true, List.map_cons]
        · simp only [mapValues, insert, before, same, if_false, List.map_cons,
            List.cons.injEq, true_and]
          exact ih

theorem mapValues_erase (f : α → β) (table : Table α) (key : String) :
    mapValues f (erase table key) = erase (mapValues f table) key := by
  simp [mapValues, erase, List.filter_map, Function.comp_def]

end ShelfLibrary.Table
