import ShelfLibrary.Proofs.Files
import ShelfLibrary.Proofs.Invariant

/-!
# Where a path leads

The two walks along a path, to a node and to a field, are measured against one description of what
can be met: the path is malformed, or everything above it is a section and something is registered
under it, or there is a shelf on the way, or something is missing on the way.  Exactly one of these
is the case for a path, and it decides what both walks answer.
-/

namespace ShelfLibrary

/-! ## Segments of what a path begins with -/

namespace Path

theorem not_mem_of_mem_segments {path name : String} (member : name ∈ segments path) :
    '.' ∉ name.toList := by
  obtain ⟨run, listed, rfl⟩ := List.mem_map.mp member
  simpa using fun inside => (mem_of_mem_split listed inside).2 rfl

/-- The first segments of a path, joined, have these segments. -/
theorem segments_ofSegments {path : String} {before rest : List String}
    (whole : segments path = before ++ rest) (nonempty : before ≠ []) :
    segments (ofSegments before) = before := by
  have general {names : List String} (free : ∀ name ∈ names, '.' ∉ name.toList)
      (nonempty : names ≠ []) : segments (ofSegments names) = names := by
    induction names with
    | nil => contradiction
    | cons name names ih =>
        have first : segments name = [name] := by
          simp [segments, split_of_not_mem (free name List.mem_cons_self)]
        cases names with
        | nil => simpa [ofSegments] using first
        | cons next names =>
            rw [ofSegments_cons (List.cons_ne_nil _ _), segments_append, first,
              ih (fun other member => free other (List.mem_cons_of_mem _ member))
                (List.cons_ne_nil _ _), List.singleton_append]
  refine general (fun name member => ?_) nonempty
  exact not_mem_of_mem_segments (whole ▸ List.mem_append_left rest member)

/-- A path with more segments than another, the same ones first, goes on from it after a dot. -/
theorem eq_below_of_segments {path front : String} {names : List String}
    (whole : segments path = segments front ++ names) (nonempty : names ≠ []) :
    path = front ++ "." ++ ofSegments names := by
  rw [← ofSegments_segments path, whole, ofSegments_append (segments_ne_nil front) nonempty,
    ofSegments_segments]

/-- Two beginnings of a path are equal, or one goes on from the other. -/
theorem eq_or_below_of_isWithin {path left right : String} (fromLeft : isWithin path left = true)
    (fromRight : isWithin path right = true) :
    left = right ∨ (∃ rest, left = right ++ "." ++ rest) ∨
      ∃ rest, right = left ++ "." ++ rest := by
  rcases isWithin_iff.mp fromLeft with rfl | ⟨inner, fromLeft⟩
  · exact (isWithin_iff.mp fromRight).imp_right .inl
  · rcases isWithin_iff.mp fromRight with rfl | ⟨outer, fromRight⟩
    · exact .inr (.inr ⟨inner, fromLeft⟩)
    · rcases lt_trichotomy left.length right.length with shorter | same | longer
      · exact .inr (.inr (exists_between fromLeft fromRight shorter))
      · refine .inl ?_
        have chars : left.toList ++ ".".toList ++ inner.toList =
            right.toList ++ ".".toList ++ outer.toList := by
          simp only [← String.toList_append, ← fromLeft, ← fromRight]
        rw [List.append_assoc, List.append_assoc] at chars
        exact String.toList_inj.mp
          (List.append_inj_left chars (by simpa only [String.length_toList] using same))
      · exact .inr (.inl (exists_between fromRight fromLeft longer))

end Path

namespace Namespace

variable {nodes : Namespace} {path key other : String}

/-! ## What can be met -/

/-- Whether a section is registered under a key. -/
def HasSection (nodes : Namespace) (key : String) : Prop :=
  ∃ entry, nodes.get? key = some entry ∧ entry.isSection = true

/-- Whether every proper prefix of a path is a section: whatever the path continues after a dot. -/
def IsReached (nodes : Namespace) (path : String) : Prop :=
  ∀ front rest, path = front ++ "." ++ rest → nodes.HasSection front

/-- What is met on a path. -/
inductive Finding where
  /-- The path is no path. -/
  | malformed
  /-- There is a node under the whole path. -/
  | node (entry : Entry)
  /-- There is a shelf on the way, and names are left for inside it. -/
  | field (address : FieldAddress)
  /-- Nothing is registered under a prefix of the path. -/
  | missing (key : String)

/-- Which finding a path leads to in a namespace. -/
inductive LeadsTo (nodes : Namespace) (path : String) : Finding → Prop
  /-- The path breaks the syntax of paths. -/
  | malformed (strange : Path.isValid path = false) : LeadsTo nodes path .malformed
  /-- Every proper prefix is a section, and the path is registered. -/
  | node {entry : Entry} (valid : Path.isValid path = true) (reached : nodes.IsReached path)
      (registered : nodes.get? path = some entry) : LeadsTo nodes path (.node entry)
  /-- A proper prefix, all of whose proper prefixes are sections, is a shelf; the names left are at
  least one, and joined to it by dots they give the path. -/
  | field {address : FieldAddress} (valid : Path.isValid path = true)
      (reached : nodes.IsReached address.shelf)
      (registered : nodes.get? address.shelf = some address.entry)
      (kind : address.entry.isShelf = true) (nonempty : address.names ≠ [])
      (left : Path.segments path = Path.segments address.shelf ++ address.names)
      (joined : Path.ofSegments (address.shelf :: address.names) = path) :
      LeadsTo nodes path (.field address)
  /-- A prefix, or the path itself, is not registered while all its proper prefixes are sections, so
  that no shorter prefix is missing. -/
  | missing {key : String} (valid : Path.isValid path = true)
      (within : Path.isWithin path key = true) (reached : nodes.IsReached key)
      (absent : nodes.get? key = none) : LeadsTo nodes path (.missing key)

namespace Finding

/-- What a search for a node answers. -/
def nodeAnswer (path : String) : Finding → Except LibraryError Entry
  | malformed => .error (.validation (.invalidPath path))
  | node entry => .ok entry
  | field address => .error (.resolution (.notASection address.shelf))
  | missing key => .error (.resolution (.notFound key))

/-- What a search for a field answers. -/
def fieldAnswer (path : String) : Finding → Except LibraryError FieldAddress
  | malformed => .error (.validation (.invalidPath path))
  | node _ => .error (.validation (.invalidField "path" (.notAField path)))
  | field address => .ok address
  | missing key => .error (.resolution (.notFound key))

end Finding

/-! ## One finding at most -/

/-- Whether a way ends at a key: what is above the key is sections, and it is the whole path or no
section. -/
structure EndsAt (nodes : Namespace) (path key : String) : Prop where
  /-- The key is the path or a proper prefix of it. -/
  within : Path.isWithin path key = true
  /-- The proper prefixes of the key are sections. -/
  reached : nodes.IsReached key
  /-- The way does not go on through the key. -/
  last : key = path ∨ ¬nodes.HasSection key

/-- No way that ends somewhere goes on from there. -/
theorem EndsAt.not_below (ends : nodes.EndsAt path key) (within : Path.isWithin path other = true)
    (reached : nodes.IsReached other) (rest : String) : other ≠ key ++ "." ++ rest := by
  intro below
  rcases ends.last with rfl | closed
  · rcases Path.isWithin_iff.mp within with same | ⟨more, above⟩
    · have length := congrArg String.length (same.trans below)
      simp only [String.length_append, show ".".length = 1 from rfl] at length
      omega
    · have length := congrArg String.length (above.trans (by rw [below]))
      simp only [String.length_append, show ".".length = 1 from rfl] at length
      omega
  · exact closed (reached key rest below)

theorem EndsAt.unique (left : nodes.EndsAt path key) (right : nodes.EndsAt path other) :
    key = other := by
  rcases Path.eq_or_below_of_isWithin left.within right.within with same | ⟨rest, below⟩ |
    ⟨rest, below⟩
  · exact same
  · exact absurd below (right.not_below left.within left.reached rest)
  · exact absurd below (left.not_below right.within right.reached rest)

theorem not_hasSection_of_isShelf {entry : Entry} (registered : nodes.get? key = some entry)
    (kind : entry.isShelf = true) : ¬nodes.HasSection key := by
  rintro ⟨met, found, isSection⟩
  obtain rfl : met = entry := Option.some.inj (found.symm.trans registered)
  simp [Entry.isSection_eq_not_isShelf, kind] at isSection

theorem not_hasSection_of_absent (absent : nodes.get? key = none) : ¬nodes.HasSection key := by
  rintro ⟨met, found, -⟩
  simp [absent] at found

theorem isWithin_of_joined {shelf : String} {names : List String} (nonempty : names ≠ [])
    (joined : Path.ofSegments (shelf :: names) = path) : Path.isWithin path shelf = true := by
  rw [← joined, Path.ofSegments_cons nonempty]
  exact Path.isWithin_below shelf _

/-- The key where the way to a finding ends. -/
def Finding.stop (path : String) : Finding → String
  | .malformed => path
  | .node _ => path
  | .field address => address.shelf
  | .missing key => key

/-- What is met on a path whose way ends at a key. -/
def metAt (nodes : Namespace) (path key : String) : Finding :=
  if !Path.isValid path then .malformed
  else match nodes.get? key with
    | none => .missing key
    | some entry =>
      if key = path then .node entry
      else .field ⟨key, entry, (Path.segments path).drop (Path.segments key).length⟩

variable {finding : Finding}

theorem LeadsTo.endsAt (leads : nodes.LeadsTo path finding) (valid : Path.isValid path = true) :
    nodes.EndsAt path (finding.stop path) := by
  cases leads with
  | malformed strange => simp [valid] at strange
  | node _ reached registered => exact ⟨Path.isWithin_self path, reached, .inl rfl⟩
  | field _ reached registered kind nonempty left joined =>
      exact ⟨isWithin_of_joined nonempty joined, reached,
        .inr (not_hasSection_of_isShelf registered kind)⟩
  | missing _ within reached absent =>
      exact ⟨within, reached, .inr (not_hasSection_of_absent absent)⟩

/-- Where the way ends decides the finding. -/
theorem LeadsTo.eq_metAt (leads : nodes.LeadsTo path finding) :
    finding = nodes.metAt path (finding.stop path) := by
  unfold metAt
  cases leads with
  | malformed strange => simp [strange]
  | node valid reached registered => simp [Finding.stop, valid, registered]
  | @field address valid reached registered kind nonempty left joined =>
      have apart : address.shelf ≠ path := by
        intro same
        rw [same] at left
        exact nonempty (List.append_right_eq_self.mp left.symm)
      simp [Finding.stop, valid, registered, apart, left]
  | missing valid within reached absent => simp [Finding.stop, valid, absent]

/-- A path leads to one finding only. -/
theorem LeadsTo.unique {another : Finding} (leads : nodes.LeadsTo path finding)
    (leadsToo : nodes.LeadsTo path another) : finding = another := by
  rw [leads.eq_metAt, leadsToo.eq_metAt]
  cases valid : Path.isValid path with
  | false => simp [metAt, valid]
  | true => rw [(leads.endsAt valid).unique (leadsToo.endsAt valid)]

/-! ## The walks -/

/-- A path is reached when the sections go on through the one above its last name. -/
theorem isReached_next {before : List String} {name : String}
    (own : Path.segments other = before ++ [name])
    (through : before ≠ [] →
      nodes.IsReached (Path.ofSegments before) ∧ nodes.HasSection (Path.ofSegments before)) :
    nodes.IsReached other := by
  rintro front rest below
  rw [below, Path.segments_append] at own
  obtain ⟨last, others, split⟩ : ∃ last others, Path.segments rest = others ++ [last] := by
    refine ⟨(Path.segments rest).getLast (Path.segments_ne_nil rest), _,
      (List.dropLast_append_getLast (Path.segments_ne_nil rest)).symm⟩
  rw [split, ← List.append_assoc] at own
  obtain ⟨whole, -⟩ := List.append_inj' own rfl
  have nonempty : before ≠ [] := by
    rw [← whole]
    exact List.append_ne_nil_of_left_ne_nil (Path.segments_ne_nil front) others
  obtain ⟨reached, last⟩ := through nonempty
  by_cases alone : others = []
  · rw [alone, List.append_nil] at whole
    rwa [← whole, Path.ofSegments_segments] at last
  · refine reached front (Path.ofSegments others) ?_
    rw [← whole, Path.ofSegments_append (Path.segments_ne_nil front) alone,
      Path.ofSegments_segments]

/-- Whether both walks along some steps answer what a finding tells. -/
structure Answers (nodes : Namespace) (path : String) (steps : List (String × List String))
    (finding : Finding) : Prop where
  /-- The walk to a node. -/
  node : (nodes.walk path steps).mapError .resolution = finding.nodeAnswer path
  /-- The walk to a field. -/
  field : nodes.findField path steps = finding.fieldAnswer path

variable {entry : Entry} {names : List String} {steps : List (String × List String)}

theorem answers_of_absent (absent : nodes.get? key = none) :
    nodes.Answers path ((key, names) :: steps) (.missing key) where
  node := by simp [walk, entryOf, absent, bind, Except.bind, Except.mapError, Finding.nodeAnswer]
  field := by simp [findField, absent, Finding.fieldAnswer]

/-- Both walks go on through a section. -/
theorem Answers.through_section (answers : nodes.Answers path steps finding)
    (registered : nodes.get? key = some entry) (kind : entry.isSection = true) :
    nodes.Answers path ((key, names) :: steps) finding where
  node := by
    rw [← answers.node]
    simp [walk, entryOf, registered, kind, bind, Except.bind]
  field := by
    rw [← answers.field]
    simp [findField, registered, kind]

theorem answers_of_shelf (registered : nodes.get? key = some entry)
    (kind : entry.isSection = false) (nonempty : names ≠ []) :
    nodes.Answers path ((key, names) :: steps) (.field ⟨key, entry, names⟩) where
  node := by
    simp [walk, entryOf, registered, kind, nonempty, bind, Except.bind, Except.mapError, throw,
      throwThe, MonadExceptOf.throw, Finding.nodeAnswer]
  field := by simp [findField, registered, kind, nonempty, Finding.fieldAnswer]

theorem answers_of_last (registered : nodes.get? path = some entry) :
    nodes.Answers path [(path, [])] (.node entry) where
  node := by
    simp [walk, entryOf, registered, bind, Except.bind, Except.mapError, Finding.nodeAnswer]
  field := by simp [findField, registered, Finding.fieldAnswer]

/-- From a key on that is reached, both walks answer what the path leads to. -/
theorem exists_leadsTo_of_splits {before : List String} {name : String}
    (valid : Path.isValid path = true) (whole : Path.segments path = before ++ name :: names)
    (reached : nodes.IsReached (Path.ofSegments (before ++ [name]))) :
    ∃ finding, nodes.LeadsTo path finding ∧
      nodes.Answers path (splits before (name :: names)) finding := by
  induction names generalizing before name with
  | nil =>
      have last : Path.ofSegments (before ++ [name]) = path := by
        rw [← whole, Path.ofSegments_segments]
      rw [last] at reached
      simp only [splits, last]
      cases registered : nodes.get? path with
      | none =>
          exact ⟨.missing path, .missing valid (Path.isWithin_self path) reached registered,
            answers_of_absent registered⟩
      | some entry =>
          exact ⟨.node entry, .node valid reached registered, answers_of_last registered⟩
  | cons next names ih =>
      have front : Path.segments path = (before ++ [name]) ++ next :: names := by
        rw [whole, List.append_assoc, List.singleton_append]
      have own : Path.segments (Path.ofSegments (before ++ [name])) = before ++ [name] :=
        Path.segments_ofSegments front (by simp)
      have below := Path.eq_below_of_segments (own.symm ▸ front) (List.cons_ne_nil next names)
      rw [splits]
      generalize key_eq : Path.ofSegments (before ++ [name]) = key at own below reached ⊢
      cases registered : nodes.get? key with
      | none =>
          have within : Path.isWithin path key = true := Path.isWithin_iff.mpr (.inr ⟨_, below⟩)
          exact ⟨.missing key, .missing valid within reached registered,
            answers_of_absent registered⟩
      | some entry =>
          cases kind : entry.isSection with
          | true =>
              -- The section lets both walks go on, so that the next key is reached as well.
              have more : Path.segments path = (before ++ [name] ++ [next]) ++ names := by
                simpa using whole
              have onward : nodes.IsReached (Path.ofSegments (before ++ [name] ++ [next])) := by
                apply isReached_next (Path.segments_ofSegments more (by simp))
                rintro -
                rw [key_eq]
                exact ⟨reached, entry, registered, kind⟩
              obtain ⟨finding, leads, answers⟩ := ih front onward
              exact ⟨finding, leads, answers.through_section registered kind⟩
          | false =>
              have shelf : entry.isShelf = true := by
                simpa [Entry.isSection_eq_not_isShelf] using kind
              refine ⟨.field ⟨key, entry, next :: names⟩,
                .field valid reached registered shelf (List.cons_ne_nil next names)
                  (own.symm ▸ front) ?_,
                answers_of_shelf registered kind (List.cons_ne_nil next names)⟩
              rw [Path.ofSegments_cons (List.cons_ne_nil next names)]
              exact below.symm

theorem exists_leadsTo (nodes : Namespace) (path : String) :
    ∃ finding, nodes.LeadsTo path finding ∧ nodes.resolve path = finding.nodeAnswer path ∧
      nodes.resolveField path = finding.fieldAnswer path := by
  cases valid : Path.isValid path with
  | false =>
      refine ⟨.malformed, .malformed valid, ?_, ?_⟩
      · simp [resolve, valid, Finding.nodeAnswer]
      · simp [resolveField, valid, Finding.fieldAnswer]
  | true =>
      obtain ⟨name, names, whole⟩ := List.exists_cons_of_ne_nil (Path.segments_ne_nil path)
      have first : Path.segments path = ([] ++ [name]) ++ names := whole
      have own : Path.segments (Path.ofSegments ([] ++ [name])) = [] ++ [name] :=
        Path.segments_ofSegments first (by simp)
      have reached : nodes.IsReached (Path.ofSegments ([] ++ [name])) :=
        isReached_next own fun nonempty => absurd rfl nonempty
      obtain ⟨finding, leads, answers⟩ := exists_leadsTo_of_splits valid whole reached
      refine ⟨finding, leads, ?_, ?_⟩
      · simpa [resolve, valid, whole] using answers.node
      · simpa [resolveField, valid, whole] using answers.field

/-- What a path leads to is what a search for a node answers. -/
theorem LeadsTo.resolve_eq (leads : nodes.LeadsTo path finding) :
    nodes.resolve path = finding.nodeAnswer path := by
  obtain ⟨met, leadsToo, node, -⟩ := exists_leadsTo nodes path
  rw [node, leads.unique leadsToo]

/-- In every namespace, every text leads to exactly one finding: it is no path, or it is registered
and all its proper prefixes are sections, or a proper prefix is the first that is a shelf, or a
prefix is the first that is missing.  Both walks answer accordingly, the search for a node with the
entry, and the search for a field with the shelf and the names left. -/
theorem exists_finding (nodes : Namespace) (path : String) :
    ∃ finding, (∀ other, nodes.LeadsTo path other ↔ other = finding) ∧
      nodes.resolve path = finding.nodeAnswer path ∧
      nodes.resolveField path = finding.fieldAnswer path := by
  obtain ⟨finding, leads, answers⟩ := exists_leadsTo nodes path
  refine ⟨finding, fun other => ?_, answers⟩
  constructor
  · intro leadsToo
    exact leadsToo.unique leads
  · rintro rfl
    exact leads

end Namespace

/-! ## Paths in a tree -/

namespace IsTree

variable {table : Table Entry} {key : String} {entry : Entry}

/-- In a tree, whatever is registered is found. -/
theorem resolve_eq_ok (tree : IsTree table) :
    (Namespace.ofTable table).resolve key = .ok entry ↔ Table.get? table key = some entry := by
  constructor
  · intro resolved
    exact (Namespace.of_resolve resolved).2
  · intro found
    have reached : (Namespace.ofTable table).IsReached key := by
      rintro front rest rfl
      exact tree.ancestor front rest entry found
    exact (Namespace.LeadsTo.node (tree.valid key entry found) reached found).resolve_eq

theorem resolveShelf_eq_ok (tree : IsTree table) :
    (Namespace.ofTable table).resolveShelf key = .ok entry ↔
      Table.get? table key = some entry ∧ entry.isShelf = true := by
  constructor
  · exact Namespace.of_resolveShelf
  · rintro ⟨found, kind⟩
    refine Result.bind_eq_ok.mpr ⟨entry, tree.resolve_eq_ok.mpr found, ?_⟩
    rw [if_pos kind]
    rfl

theorem resolveSection_eq_ok (tree : IsTree table) :
    (Namespace.ofTable table).resolveSection key = .ok entry ↔
      Table.get? table key = some entry ∧ entry.isSection = true := by
  constructor
  · intro resolved
    exact (Namespace.of_resolveSection resolved).2
  · rintro ⟨found, kind⟩
    refine Result.bind_eq_ok.mpr ⟨entry, tree.resolve_eq_ok.mpr found, ?_⟩
    rw [if_pos kind]
    rfl

end IsTree

end ShelfLibrary
