import ShelfLibrary.Json.Shape
import ShelfLibrary.Proofs.Result
import ShelfLibrary.Proofs.Table

/-!
# What decoders make of documents

How the documents of alternatives, tables and members are decoded when they are written the way in
which they are meant to be read.
-/

namespace ShelfLibrary.Decoder

variable {α : Type} {decode : Decoder α}

/-! ## Alternatives -/

section

variable {title tag content kind : String} {known : List String}
  {read : String → Option Json → Except DecodeError α}

theorem name_text (isKnown : known.contains kind = true) :
    Decoder.name known (.text kind) = .ok kind := if_pos isKnown

/-- An alternative without content. -/
theorem adjacent_alone (isKnown : known.contains kind = true) (different : tag ≠ content) :
    adjacent title tag content known read (.object [(tag, .text kind)]) = read kind none := by
  simp [adjacent, sole?, name_text isKnown, different, bind, Except.bind]

/-- An alternative with content. -/
theorem adjacent_pair (isKnown : known.contains kind = true) (different : tag ≠ content)
    (found : Json) : adjacent title tag content known read
      (.object [(tag, .text kind), (content, found)]) = read kind (some found) := by
  simp [adjacent, sole?, name_text isKnown, different, different.symm, bind, Except.bind]

end

/-! ## Tables -/

theorem keys_of_mapM_member {members : List (String × Json)} {entries : List (String × α)}
    (read : members.mapM (member decode) = .ok entries) :
    entries.map Prod.fst = members.map Prod.fst := by
  induction members generalizing entries with
  | nil =>
      simp only [List.mapM_nil, pure, Except.pure, Except.ok.injEq] at read
      simp [← read]
  | cons entry rest ih =>
      obtain ⟨key, found⟩ := entry
      simp only [List.mapM_cons, Result.bind_eq_ok, member] at read
      obtain ⟨first, decoded, others, more, made⟩ := read
      simp only [pure, Except.pure, Except.ok.injEq] at made
      subst made
      cases value : decode found with
      | error e => simp [value, Except.map] at decoded
      | ok value' =>
          simp only [value, Except.map, Except.ok.injEq] at decoded
          subst decoded
          simp [ih more]

/-- A table whose keys are those of an object is read off the object member by member. -/
theorem table_eq_ok {members : List (String × Json)} {table : Table α}
    (keys : members.map Prod.fst = table.map Prod.fst) (sorted : Table.Sorted table) :
    Decoder.table decode (.object members) = .ok table ↔
      members.mapM (member decode) = .ok table := by
  unfold Decoder.table
  cases read : members.mapM (member decode) with
  | error e => simp [read, Except.map]
  | ok entries =>
      have same : entries.map Prod.fst = table.map Prod.fst := (keys_of_mapM_member read).trans keys
      have entriesSorted : Table.Sorted entries := by
        unfold Table.Sorted at sorted ⊢
        rw [← List.pairwise_map (f := Prod.fst)] at sorted ⊢
        rwa [same]
      simp [read, Except.map, Table.ofEntries_of_sorted entriesSorted]

end ShelfLibrary.Decoder
