/-!
# Tables

A table is a finite map from text keys, kept as a list of entries in increasing key order.  Keys
are ordered by their code points.  Every operation below answers through the view `Table.get?`,
also on a list that is out of order.
-/

namespace ShelfLibrary

/-- A finite map from text keys as a list of entries. -/
abbrev Table (α : Type) := List (String × α)

namespace Table

variable {α β : Type}

/-- The first value stored under a key. -/
def get? : Table α → String → Option α
  | [], _ => none
  | (name, value) :: rest, key => if name = key then some value else get? rest key

/-- Whether a key is stored. -/
def contains (table : Table α) (key : String) : Bool :=
  (get? table key).isSome

/-- Stores a value under a key, in key order, replacing the value that was there. -/
def insert : Table α → String → α → Table α
  | [], key, value => [(key, value)]
  | (name, old) :: rest, key, value =>
    if key < name then (key, value) :: (name, old) :: rest
    else if name = key then (key, value) :: rest
    else (name, old) :: insert rest key value

/-- Drops every entry of a key. -/
def erase (table : Table α) (key : String) : Table α :=
  table.filter fun entry => entry.1 ≠ key

/-- Overwrites a table, key by key, with the entries of another. -/
def overwrite (table changes : Table α) : Table α :=
  changes.foldl (fun result entry => insert result entry.1 entry.2) table

/-- The table of a list of entries; of entries with one key the last counts. -/
def ofEntries (entries : List (String × α)) : Table α :=
  overwrite [] entries

/-- The keys in order. -/
def keys (table : Table α) : List String :=
  table.map Prod.fst

/-- Every value replaced by its image. -/
def mapValues (f : α → β) (table : Table α) : Table β :=
  table.map fun entry => (entry.1, f entry.2)

/-- Keys strictly increase. -/
def Sorted (table : Table α) : Prop :=
  table.Pairwise fun left right => left.1 < right.1

@[simp]
theorem get?_nil (key : String) : get? ([] : Table α) key = none := rfl

theorem get?_cons (name : String) (value : α) (rest : Table α) (key : String) :
    get? ((name, value) :: rest) key = if name = key then some value else get? rest key := rfl

@[simp]
theorem get?_insert_self (table : Table α) (key : String) (value : α) :
    get? (insert table key value) key = some value := by
  induction table with
  | nil => simp [insert, get?]
  | cons entry rest ih =>
    obtain ⟨name, old⟩ := entry
    unfold insert
    split
    · simp [get?]
    · split
      · simp [get?]
      · rename_i different
        simp [get?, different, ih]

theorem get?_insert_of_ne (table : Table α) {key other : String} (value : α)
    (different : key ≠ other) : get? (insert table key value) other = get? table other := by
  induction table with
  | nil => simp [insert, get?, different]
  | cons entry rest ih =>
    obtain ⟨name, old⟩ := entry
    unfold insert
    split
    · simp [get?, different]
    · split
      · rename_i same
        subst same
        simp [get?, different]
      · simp [get?, ih]

@[simp]
theorem get?_erase_self (table : Table α) (key : String) : get? (erase table key) key = none := by
  induction table with
  | nil => rfl
  | cons entry rest ih =>
    obtain ⟨name, old⟩ := entry
    by_cases same : name = key
    · simpa [erase, same] using ih
    · simpa [erase, get?, same] using ih

theorem get?_erase_of_ne (table : Table α) {key other : String} (different : key ≠ other) :
    get? (erase table key) other = get? table other := by
  induction table with
  | nil => rfl
  | cons entry rest ih =>
    obtain ⟨name, old⟩ := entry
    by_cases same : name = key
    · subst same
      simpa [erase, get?, different] using ih
    · have kept : erase ((name, old) :: rest) key = (name, old) :: erase rest key := by
        simp [erase, same]
      rw [kept, get?, get?, ih]

@[simp]
theorem keys_mapValues (f : α → β) (table : Table α) : keys (mapValues f table) = keys table := by
  simp [keys, mapValues]

end Table

end ShelfLibrary
