import ShelfLibrary.Proofs.Table
import ShelfLibrary.Value.Field

/-!
# Places in nested records

A value in a nested record is read, overwritten and taken out at the end of the same way.  What is
done there shows at the end of the way and beyond it, and nowhere else.
-/

namespace ShelfLibrary

/-- The value at the end of a way of names from a value on; the empty way ends at the value. -/
def Value.follow? : Value → List String → Option Value
  | value, [] => some value
  | .record inner, names => Record.lookup? inner names
  | _, _ => none

@[simp]
theorem Value.follow?_nil (value : Value) : value.follow? [] = some value := by
  cases value <;> rfl

theorem Value.follow?_record (inner : Record) {names : List String} (onward : names ≠ []) :
    (Value.record inner).follow? names = Record.lookup? inner names := by
  cases names with
  | nil => exact absurd rfl onward
  | cons name rest => rfl

namespace Record

variable {fields : Record} {names other : List String} {slot : Slot}

/-! ## Ways -/

theorem lookup?_cons (fields : Record) (name : String) (rest : List String) :
    lookup? fields (name :: rest) = (Table.get? fields name).bind (·.follow? rest) := by
  cases rest with
  | nil => cases found : Table.get? fields name <;> simp [found]
  | cons next more =>
      unfold lookup?
      cases Table.get? fields name with
      | none => rfl
      | some value => cases value <;> rfl

/-- A way that goes on ends where its second part leads from the end of its first part on. -/
theorem lookup?_append (fields : Record) {front : List String} (leads : front ≠ [])
    (back : List String) :
    lookup? fields (front ++ back) = (lookup? fields front).bind (·.follow? back) := by
  induction front generalizing fields with
  | nil => exact absurd rfl leads
  | cons name rest ih =>
      rw [List.cons_append, lookup?_cons, lookup?_cons, Option.bind_assoc]
      congr 1
      funext value
      cases rest with
      | nil => simp
      | cons next more =>
          cases value with
          | record inner => exact ih inner (List.cons_ne_nil next more)
          | _ => rfl

/-- Records with the same value under a name have the same value at the end of each way that begins
with the name. -/
theorem lookup?_congr {left right : Record} {name : String}
    (same : Table.get? left name = Table.get? right name) (rest : List String) :
    lookup? left (name :: rest) = lookup? right (name :: rest) := by
  rw [lookup?_cons, lookup?_cons, same]

/-- Whether neither of two ways begins with the other. -/
def Apart (names other : List String) : Prop :=
  ¬ names <+: other ∧ ¬ other <+: names

theorem Apart.cons_iff {name : String} {rest more : List String} :
    Apart (name :: rest) (name :: more) ↔ Apart rest more := by
  simp only [Apart, List.cons_prefix_cons, true_and]

theorem apart_singleton_iff {name next : String} {rest : List String} :
    Apart [name] (next :: rest) ↔ name ≠ next := by
  simp only [Apart, List.cons_prefix_cons, List.nil_prefix, and_true]
  exact ⟨fun apart => apart.1, fun different => ⟨different, fun same => different same.1.symm⟩⟩

/-- A way apart from another that is longer by a name is apart from the other already, or goes on
after it with another name. -/
theorem Apart.of_concat {parents : List String} {last : String}
    (apart : Apart (parents ++ [last]) other) :
    Apart parents other ∨ ∃ name rest, other = parents ++ name :: rest ∧ last ≠ name := by
  by_cases begins : parents <+: other
  · right
    obtain ⟨rest, rfl⟩ := begins
    cases rest with
    | nil =>
        rw [List.append_nil] at apart
        exact absurd (List.prefix_append parents [last]) apart.2
    | cons name rest =>
        refine ⟨name, rest, rfl, fun same => apart.1 ?_⟩
        rw [same, List.prefix_append_right_inj, List.cons_prefix_cons]
        exact ⟨rfl, List.nil_prefix⟩
  · exact .inl ⟨begins, fun short => apart.2 (short.trans (List.prefix_append parents [last]))⟩

/-! ## Slots -/

/-- Whether a slot is the place at the end of a way: it has the value there, and what it is filled
with stands there and changes nothing apart from the way. -/
structure Slot.IsAt (slot : Slot) (fields : Record) (names : List String) : Prop where
  /-- The value is the one at the end of the way. -/
  value : lookup? fields names = some slot.value
  /-- From the end of the way on, ways lead through the value that fills the slot. -/
  filled : ∀ value more, lookup? (slot.fill value) (names ++ more) = value.follow? more
  /-- Ways apart lead where they did. -/
  kept : ∀ value other, Apart names other → lookup? (slot.fill value) other = lookup? fields other

theorem isAt_singleton {name : String} {value : Value}
    (found : Table.get? fields name = some value) :
    Slot.IsAt ⟨value, Table.insert fields name⟩ fields [name] where
  value := found
  filled value more := by
    rw [List.singleton_append, lookup?_cons, Table.get?_insert_self, Option.bind_some]
  kept value other apart := by
    cases other with
    | nil => rfl
    | cons next rest =>
        have different := apart_singleton_iff.mp apart
        exact lookup?_congr (Table.get?_insert_of_ne fields value different) rest

/-- The place in a record inside another is a place in the outer one. -/
theorem Slot.IsAt.within {name : String} {inner : Record}
    (found : Table.get? fields name = some (.record inner)) (leads : names ≠ [])
    (place : slot.IsAt inner names) :
    Slot.IsAt ⟨slot.value, fun value => Table.insert fields name (.record (slot.fill value))⟩
      fields (name :: names) where
  value := by
    rw [lookup?_cons, found, Option.bind_some, Value.follow?_record inner leads, place.value]
  filled value more := by
    rw [List.cons_append, lookup?_cons, Table.get?_insert_self, Option.bind_some,
      Value.follow?_record _ (List.append_ne_nil_of_left_ne_nil leads more), place.filled]
  kept value other apart := by
    cases other with
    | nil => rfl
    | cons next rest =>
        by_cases same : name = next
        · subst same
          have further : Apart names rest := Apart.cons_iff.mp apart
          have onward : rest ≠ [] := fun ends => further.2 (ends ▸ List.nil_prefix)
          rw [lookup?_cons, lookup?_cons, Table.get?_insert_self, found, Option.bind_some,
            Option.bind_some, Value.follow?_record _ onward, Value.follow?_record _ onward,
            place.kept value rest further]
        · exact lookup?_congr (Table.get?_insert_of_ne fields _ same) rest

theorem isAt_of_slot? (found : slot? fields names = some slot) : slot.IsAt fields names := by
  induction names generalizing fields slot with
  | nil => cases found
  | cons name rest ih =>
      cases rest with
      | nil =>
          obtain ⟨value, held, rfl⟩ := Option.map_eq_some_iff.mp found
          exact isAt_singleton held
      | cons next more =>
          unfold slot? at found
          split at found
          · rename_i inner held
            obtain ⟨place, reached, rfl⟩ := Option.map_eq_some_iff.mp found
            exact (ih reached).within held (List.cons_ne_nil next more)
          · cases found

/-- There is a slot at the end of a way if there is a value. -/
theorem map_value_slot? (fields : Record) (names : List String) :
    (slot? fields names).map Slot.value = lookup? fields names := by
  induction names generalizing fields with
  | nil => rfl
  | cons name rest ih =>
      cases rest with
      | nil => simp [slot?, Function.comp_def]
      | cons next more =>
          unfold slot? lookup?
          split
          · rw [Option.map_map]
            exact ih _
          · rfl

theorem slot?_eq_none (missing : lookup? fields names = none) : slot? fields names = none := by
  rw [← map_value_slot?] at missing
  exact Option.map_eq_none_iff.mp missing

/-! ## Extraction -/

/-- Whether a value is taken out of the end of a way: it was the one there, nothing is found there
or beyond it any more, and what is found apart from the way is what was. -/
structure Extracts (fields : Record) (names : List String) (taken : Option Value) (left : Record) :
    Prop where
  /-- What is taken is what was at the end of the way. -/
  read : taken = lookup? fields names
  /-- The record is as it was if nothing is taken. -/
  idle : taken = none → left = fields
  /-- Neither the way nor one that goes on after it leads anywhere. -/
  gone : ∀ more, lookup? left (names ++ more) = none
  /-- Ways apart lead where they did. -/
  kept : ∀ other, Apart names other → lookup? left other = lookup? fields other

/-- Nothing is taken where nothing is. -/
theorem extracts_none (leads : names ≠ []) (missing : lookup? fields names = none) :
    Extracts fields names none fields where
  read := missing.symm
  idle _ := rfl
  gone more := by rw [lookup?_append fields leads, missing, Option.bind_none]
  kept _ _ := rfl

theorem extracts_singleton (fields : Record) (name : String) :
    Extracts fields [name] (Table.get? fields name) (Table.erase fields name) where
  read := rfl
  idle := Table.erase_eq_self
  gone more := by
    rw [List.singleton_append, lookup?_cons, Table.get?_erase_self, Option.bind_none]
  kept other apart := by
    cases other with
    | nil => rfl
    | cons next rest =>
        have different := apart_singleton_iff.mp apart
        exact lookup?_congr (Table.get?_erase_of_ne fields different) rest

/-- What is taken out of the record in a slot is taken out of the record around the slot. -/
theorem Slot.IsAt.extracts {inner left : Record} {last : String} {value : Value}
    (place : slot.IsAt fields names) (leads : names ≠ []) (holds : slot.value = .record inner)
    (removes : Extracts inner [last] (some value) left) :
    Extracts fields (names ++ [last]) (some value) (slot.fill (.record left)) := by
  -- From the slot on ways lead through the record in it, the old one before and the new one after.
  have before (rest : List String) (onward : rest ≠ []) :
      lookup? fields (names ++ rest) = lookup? inner rest := by
    rw [lookup?_append fields leads, place.value, holds, Option.bind_some,
      Value.follow?_record inner onward]
  have after (rest : List String) (onward : rest ≠ []) :
      lookup? (slot.fill (.record left)) (names ++ rest) = lookup? left rest := by
    rw [place.filled, Value.follow?_record left onward]
  refine ⟨?_, nofun, fun more => ?_, fun other apart => ?_⟩
  · rw [before [last] (List.cons_ne_nil last []), removes.read]
  · rw [List.append_assoc, List.singleton_append, after _ (List.cons_ne_nil last more)]
    exact removes.gone more
  · rcases apart.of_concat with outside | ⟨name, rest, rfl, different⟩
    · exact place.kept _ other outside
    · rw [before _ (List.cons_ne_nil name rest), after _ (List.cons_ne_nil name rest),
        removes.kept _ (apart_singleton_iff.mpr different)]

theorem extract_concat (fields : Record) {parents : List String} (leads : parents ≠ [])
    (last : String) :
    extract fields (parents ++ [last]) =
      match slot? fields parents with
      | some ⟨.record inner, fill⟩ =>
        match Table.get? inner last with
        | some value => (some value, fill (.record (Table.erase inner last)))
        | none => (none, fields)
      | _ => (none, fields) := by
  obtain ⟨first, more, rfl⟩ := List.exists_cons_of_ne_nil leads
  rewrite [extract, List.dropLast_concat, List.getLast?_concat]
  rfl

/-- A record gives a field of a record inside it back as that record does. -/
theorem extracts_extract_concat (fields : Record) {parents : List String} (leads : parents ≠ [])
    (last : String) :
    Extracts fields (parents ++ [last]) (extract fields (parents ++ [last])).1
      (extract fields (parents ++ [last])).2 := by
  have through := lookup?_append fields leads [last]
  have unreached (missing : lookup? fields (parents ++ [last]) = none) :
      Extracts fields (parents ++ [last]) none fields :=
    extracts_none (List.append_ne_nil_of_left_ne_nil leads [last]) missing
  rw [extract_concat fields leads]
  cases reached : slot? fields parents with
  | none =>
      refine unreached ?_
      rw [through, ← map_value_slot?, reached, Option.map_none, Option.bind_none]
  | some slot =>
      obtain ⟨value, fill⟩ := slot
      have place := isAt_of_slot? reached
      rw [place.value, Option.bind_some] at through
      cases value with
      | record inner =>
          have removes := extracts_singleton inner last
          cases held : Table.get? inner last with
          | none =>
              simp only [held]
              refine unreached ?_
              rw [through, Value.follow?_record inner (List.cons_ne_nil last []), ← removes.read]
              exact held
          | some value =>
              rw [held] at removes
              simp only [held]
              exact place.extracts leads rfl removes
      | _ => exact unreached through

/-- What a record gives back is taken out of it. -/
theorem extracts_extract (fields : Record) (leads : names ≠ []) :
    Extracts fields names (extract fields names).1 (extract fields names).2 := by
  rcases List.eq_nil_or_concat names with rfl | ⟨parents, last, rfl⟩
  · exact absurd rfl leads
  · rw [List.concat_eq_append]
    by_cases alone : parents = []
    · subst alone
      exact extracts_singleton fields last
    · exact extracts_extract_concat fields alone last

/-- Reading, overwriting and taking out agree on where a way leads.  What is written is read, what
is taken out is what was read and leads nowhere afterwards, where nothing is read nothing is
changed, and ways apart lead where they did. -/
theorem access_laws (fields : Record) (leads : names ≠ []) (value : Value) :
    (slot? fields names).map Slot.value = lookup? fields names ∧
      (∀ slot, slot? fields names = some slot → lookup? (slot.fill value) names = some value) ∧
      (extract fields names).1 = lookup? fields names ∧
      (∀ more, lookup? (extract fields names).2 (names ++ more) = none) ∧
      (lookup? fields names = none →
        slot? fields names = none ∧ (extract fields names).2 = fields) ∧
      ∀ other, ¬ names <+: other → ¬ other <+: names →
        (∀ slot, slot? fields names = some slot →
          lookup? (slot.fill value) other = lookup? fields other) ∧
        lookup? (extract fields names).2 other = lookup? fields other := by
  have removes := extracts_extract fields leads
  refine ⟨map_value_slot? fields names, fun slot found => ?_, removes.read, removes.gone,
    fun missing => ⟨slot?_eq_none missing, removes.idle (removes.read.trans missing)⟩,
    fun other ahead behind => ⟨fun slot found => ?_, removes.kept other ⟨ahead, behind⟩⟩⟩
  · have written := (isAt_of_slot? found).filled value []
    rwa [List.append_nil, Value.follow?_nil] at written
  · exact (isAt_of_slot? found).kept value other ⟨ahead, behind⟩

/-- The age of an owner is overwritten and taken out, and the name stays. -/
theorem access_laws_owner :
    let fields : Record := [("owner", .record [("age", .int 30), ("name", .text "Sam")])]
    let age : List String := ["owner", "age"]
    let name : List String := ["owner", "name"]
    age ≠ [] ∧ (∃ slot, slot? fields age = some slot ∧ slot.value = .int 30 ∧
      lookup? (slot.fill .null) age = some .null ∧
      lookup? (slot.fill .null) name = some (.text "Sam")) ∧
      (extract fields age).1 = some (.int 30) ∧
      lookup? (extract fields age).2 (age ++ ["years"]) = none ∧
      lookup? (extract fields age).2 name = some (.text "Sam") := by
  intro fields age name
  have leads : age ≠ [] := List.cons_ne_nil _ _
  have there : lookup? fields age = some (.int 30) := rfl
  have beside : lookup? fields name = some (.text "Sam") := rfl
  obtain ⟨reads, writes, takes, gone, -, keeps⟩ := access_laws fields leads .null
  obtain ⟨filled, left⟩ := keeps name (by decide) (by decide)
  rw [there] at reads takes
  obtain ⟨slot, found, held⟩ := Option.map_eq_some_iff.mp reads
  exact ⟨leads, ⟨slot, found, held, writes slot found, (filled slot found).trans beside⟩, takes,
    gone ["years"], left.trans beside⟩

end Record

end ShelfLibrary
