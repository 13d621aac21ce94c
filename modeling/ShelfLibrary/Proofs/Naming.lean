import ShelfLibrary.Proofs.Selecting

/-!
# Names of fields

A query may name a field of a shelf by its path inside the record, by its path from the root of the
library, and by its path from the queried path on.  What is named is the first of the three readings
that is defined, except that a path through the key of the shelf is not tried from the queried path
on: where the key begins with what the query leaves of it, the second reading hides the third.
-/

namespace ShelfLibrary

namespace Candidate

variable {candidate : Candidate} {key path : String} {value : Value}

/-- The field that a path through a key names. -/
def fieldBelow? (candidate : Candidate) (key path : String) : Option Value :=
  (Path.below? key path).bind candidate.field?

/-- The first reading of a path that is defined: as a field of the record, through the key of the
shelf, and through its key from the queried path on. -/
def firstReading? (candidate : Candidate) (path : String) : Option Value :=
  candidate.field? path <|> candidate.fieldBelow? candidate.key path <|>
    candidate.relative.bind fun relative => candidate.fieldBelow? relative path

/-- Whether the key of the shelf hides the only reading of a path that is defined. -/
structure IsShadowed (candidate : Candidate) (path : String) : Prop where
  /-- The path is not one of a field of the record. -/
  own : candidate.field? path = none
  /-- It leads through the key of the shelf, to no field. -/
  through : ∃ inner, path = candidate.key ++ "." ++ inner ∧ candidate.field? inner = none
  /-- It leads to a field through the key from the queried path on. -/
  behind : ∃ relative outer value, candidate.relative = some relative ∧
    path = relative ++ "." ++ outer ∧ candidate.field? outer = some value

theorem fieldBelow?_eq_some :
    candidate.fieldBelow? key path = some value ↔
      ∃ rest, path = key ++ "." ++ rest ∧ candidate.field? rest = some value := by
  simp only [fieldBelow?, Option.bind_eq_some_iff, Path.below?_eq_some]

/-- A path that does not lead through the key of the shelf has its first reading. -/
theorem local?_of_outside (outside : Path.below? candidate.key path = none) :
    candidate.local? path = candidate.firstReading? path := by
  simp only [local?, inside?, firstReading?, fieldBelow?, outside, Option.orElse_eq_orElse,
    Option.orElse_eq_or, Option.none_or, Option.bind_none, Option.bind_assoc]

/-- A path that leads through the key of the shelf is read as a field and through the key, and in no
other way. -/
theorem local?_of_below {inner : String} (below : Path.below? candidate.key path = some inner) :
    candidate.local? path = (candidate.field? path <|> candidate.field? inner) := by
  simp only [local?, inside?, below, Option.orElse_eq_orElse, Option.orElse_eq_or, Option.some_or,
    Option.bind_some]

theorem firstReading?_of_below {inner : String}
    (below : Path.below? candidate.key path = some inner) :
    candidate.firstReading? path = (candidate.local? path <|>
      candidate.relative.bind fun relative => candidate.fieldBelow? relative path) := by
  simp only [firstReading?, fieldBelow?, local?_of_below below, below, Option.orElse_eq_orElse,
    Option.orElse_eq_or, Option.bind_some, Option.or_assoc]

/-- What is read is the first reading. -/
theorem firstReading?_of_local? (read : candidate.local? path = some value) :
    candidate.firstReading? path = some value := by
  cases below : Path.below? candidate.key path with
  | none => rw [← local?_of_outside below, read]
  | some inner =>
      rw [firstReading?_of_below below, read]
      rfl

/-- A path is shadowed exactly if nothing is read of it and yet one of its readings is defined. -/
theorem isShadowed_iff :
    candidate.IsShadowed path ↔
      candidate.local? path = none ∧ candidate.firstReading? path ≠ none := by
  constructor
  · rintro ⟨own, ⟨inner, through, missing⟩, relative, outer, value, leads, behind, found⟩
    have below := Path.below?_eq_some.mpr through
    have unread : candidate.local? path = none := by
      rw [local?_of_below below, own, missing]
      rfl
    have read : candidate.fieldBelow? relative path = some value :=
      fieldBelow?_eq_some.mpr ⟨outer, behind, found⟩
    refine ⟨unread, ?_⟩
    rw [firstReading?_of_below below, unread, leads]
    simp [read]
  · rintro ⟨unread, read⟩
    cases below : Path.below? candidate.key path with
    | none => exact absurd (local?_of_outside below ▸ unread) read
    | some inner =>
        rw [firstReading?_of_below below, unread] at read
        obtain ⟨value, found⟩ := Option.ne_none_iff_exists'.mp read
        simp only [Option.orElse_eq_orElse, Option.orElse_eq_or, Option.none_or,
          Option.bind_eq_some_iff, fieldBelow?_eq_some] at found
        obtain ⟨relative, leads, outer, behind, found⟩ := found
        rw [local?_of_below below, Option.orElse_eq_orElse, Option.orElse_eq_or,
          Option.or_eq_none_iff] at unread
        exact ⟨unread.1, ⟨inner, Path.below?_eq_some.mp below, unread.2⟩,
          relative, outer, value, leads, behind, found⟩

/-- The key from the queried path on is what follows that path in the key. -/
theorem relative_candidate (held : MemoryStores) (queried : String) (node : Namespace.Node) :
    (held.candidate queried node).relative =
      Path.below? queried (held.candidate queried node).key := rfl

/-- Among gathered shelves, a path can only be shadowed where the key goes on from its own part
below the queried path. -/
theorem IsShadowed.exists_rest {queried : String}
    (gathered : candidate.relative = Path.below? queried candidate.key)
    (shadowed : candidate.IsShadowed path) :
    ∃ relative rest, candidate.key = queried ++ "." ++ relative ∧
      candidate.key = relative ++ "." ++ rest := by
  obtain ⟨inner, through, -⟩ := shadowed.through
  obtain ⟨relative, outer, -, leads, behind, -⟩ := shadowed.behind
  have key : candidate.key = queried ++ "." ++ relative :=
    Path.below?_eq_some.mp (gathered.symm.trans leads)
  have shorter : relative.length < candidate.key.length := by
    have dot : 0 < ".".length := by decide
    rw [key, String.length_append, String.length_append]
    omega
  obtain ⟨rest, between⟩ := Path.exists_between behind through shorter
  exact ⟨relative, rest, key, between⟩

/-- What a path names of a shelf is the first of its readings that is defined, unless the key of the
shelf hides it; then nothing is named.  Of the shelves that a query gathers, this concerns only
those whose key goes on from its own part below the queried path. -/
theorem local?_eq_firstReading?_iff (candidate : Candidate) (path : String) :
    (candidate.local? path = candidate.firstReading? path ↔ ¬ candidate.IsShadowed path) ∧
    (candidate.IsShadowed path → candidate.local? path = none ∧
      ∃ value, candidate.firstReading? path = some value) ∧
    ∀ queried, candidate.relative = Path.below? queried candidate.key →
      candidate.IsShadowed path → ∃ relative rest,
        candidate.key = queried ++ "." ++ relative ∧ candidate.key = relative ++ "." ++ rest := by
  refine ⟨?_, fun shadowed => ?_, fun queried gathered shadowed => shadowed.exists_rest gathered⟩
  · rw [isShadowed_iff]
    cases unread : candidate.local? path with
    | none => simp [eq_comm]
    | some value => simp [firstReading?_of_local? unread]
  · obtain ⟨unread, read⟩ := isShadowed_iff.mp shadowed
    exact ⟨unread, Option.ne_none_iff_exists'.mp read⟩

/-- Two shelves that a query of their section gathers.  The key of the first hides nothing; the key
of the second goes on from its own part below the section, and hides a field. -/
theorem local?_eq_firstReading?_iff_pens :
    let shelves : Table ShelfData :=
      [("a/a", ⟨[("a", .record [("x", .int 1)])], none⟩), ("zoo/rex", ⟨[("x", .int 2)], none⟩)]
    let held : MemoryStores := ⟨[], shelves, none⟩
    let rex := held.candidate "zoo" ("zoo.rex", .ofShelf "zoo.rex")
    let doubled := held.candidate "a" ("a.a", .ofShelf "a.a")
    (∀ path, rex.local? path = rex.firstReading? path) ∧
      doubled.IsShadowed "a.a.x" ∧ doubled.local? "a.a.x" = none ∧
        ∃ relative rest, "a.a" = "a" ++ "." ++ relative ∧ "a.a" = relative ++ "." ++ rest := by
  intro shelves held rex doubled
  obtain ⟨-, unread, further⟩ := local?_eq_firstReading?_iff doubled "a.a.x"
  have shadowed : doubled.IsShadowed "a.a.x" :=
    ⟨rfl, ⟨"x", rfl, rfl⟩, "a", "a.x", .int 1, rfl, rfl, rfl⟩
  refine ⟨fun path => ?_, shadowed, (unread shadowed).1,
    further "a" (relative_candidate held "a" _) shadowed⟩
  obtain ⟨reading, -, further⟩ := local?_eq_firstReading?_iff rex path
  refine reading.mpr fun hidden => ?_
  obtain ⟨relative, rest, key, between⟩ := further "zoo" (relative_candidate held "zoo" _) hidden
  have key : "zoo.rex" = "zoo" ++ "." ++ relative := key
  have own : some "rex" = some relative := Path.below?_eq_some.mpr key
  obtain rfl := Option.some.inj own
  have outside : Path.below? "rex" "zoo.rex" = none := rfl
  exact Option.some_ne_none rest ((Path.below?_eq_some.mpr between).symm.trans outside)

/-- The third reading of a path is defined, and nothing is named. -/
theorem local?_eq_none_doubled :
    let doubled : Candidate :=
      ⟨"a.a", .ofShelf "a.a", Path.below? "a" "a.a", [("a", .record [("x", .int 1)])]⟩
    doubled.local? "a.a.x" = none ∧ doubled.firstReading? "a.a.x" = some (.int 1) :=
  ⟨rfl, rfl⟩

end Candidate

end ShelfLibrary
