import ShelfLibrary.Proofs.Conforming
import ShelfLibrary.Proofs.Selecting

/-!
# What a checkout says of a change

A change that a filter narrows down selects its shelves before it changes any of them.  It selects
those that a checkout of the same path and filter shows, and it fails as the checkout fails.
-/

namespace ShelfLibrary.Library

open Session

variable {α : Type} {library : Library} {held : MemoryStores}

/-! ## Checkouts -/

/-- The checkout of everything at or under a path that a filter keeps. -/
def checkOutAll (path : String) (filters : Filters) : CheckOut :=
  ⟨[⟨path, [everyField]⟩], some filters, [], none, none⟩

/-- The rows of candidates whose whole records are read. -/
def wholeRows (candidates : List Candidate) : List Row :=
  candidates.map fun candidate => ⟨candidate.key, candidate.record⟩

theorem keys_wholeRows (selected : List Candidate) :
    (wholeRows selected).map Row.path = selected.map Candidate.key := by
  simp [wholeRows, Function.comp_def]

theorem keys_nodesOf (selected : List Candidate) :
    (nodesOf selected).map Prod.fst = selected.map Candidate.key := by
  simp [nodesOf, Function.comp_def]

/-- Candidates with different keys are added, save for those that have been gathered before. -/
theorem addPicked_of_nodup (item : CheckOutItem) {gathered : List Picked}
    {candidates : List Candidate} (distinct : (candidates.map Candidate.key).Nodup) :
    addPicked item gathered candidates =
      gathered ++ (candidates.filter fun candidate => candidate.key ∉ gathered.map Picked.key).map
        fun candidate => ⟨candidate, item⟩ := by
  induction candidates generalizing gathered with
  | nil => simp [addPicked]
  | cons candidate rest ih =>
      obtain ⟨apart, others⟩ := List.nodup_cons.mp distinct
      have known : (gathered.any fun picked => picked.candidate.key == candidate.key) =
          decide (candidate.key ∈ gathered.map Picked.key) := by
        rw [Bool.eq_iff_iff, List.any_eq_true, decide_eq_true_iff, List.mem_map]
        simp only [beq_iff_eq, Picked.key]
      by_cases listed : candidate.key ∈ gathered.map Picked.key
      · have step : addPicked item gathered (candidate :: rest) = addPicked item gathered rest := by
          simp only [addPicked, List.foldl_cons, known, decide_eq_true listed, if_true]
        rw [step, ih others, List.filter_cons_of_neg (by simpa using listed)]
      · have step : addPicked item gathered (candidate :: rest) =
            addPicked item (gathered ++ [⟨candidate, item⟩]) rest := by
          simp only [addPicked, List.foldl_cons, known, decide_eq_false listed, Bool.false_eq_true,
            if_false]
        have same : (rest.filter fun other =>
            other.key ∉ (gathered ++ [(⟨candidate, item⟩ : Picked)]).map Picked.key) =
              rest.filter fun other => other.key ∉ gathered.map Picked.key := by
          refine List.filter_congr fun other member => decide_eq_decide.mpr ?_
          have different : other.key ≠ candidate.key := fun same =>
            apart (same ▸ List.mem_map_of_mem member)
          simp [Picked.key, different]
        rw [step, ih others, same, List.filter_cons_of_pos (by simpa using listed),
          List.map_cons, List.append_assoc]
        rfl

/-- A filter keeps the same candidates, with or without the item that they were gathered for. -/
theorem selectPicked_map (filters : Filters) (item : CheckOutItem) (candidates : List Candidate) :
    selectPicked filters (candidates.map fun candidate => ⟨candidate, item⟩) =
      (List.map fun candidate => (⟨candidate, item⟩ : Picked)) <$>
        selectBy filters candidates := by
  induction candidates with
  | nil => simp [selectPicked, selectBy]
  | cons candidate rest ih =>
      simp only [List.map_cons, selectPicked, selectBy, ih, map_bind, bind_map_left, map_pure]
      refine bind_congr fun keep => bind_congr fun others => ?_
      cases keep <;> rfl

theorem readRows_checkOutAll (path : String) (filters : Filters) :
    readRows (checkOutAll path filters) = gather path >>= fun candidates =>
      selectPicked filters (addPicked ⟨path, [everyField]⟩ [] candidates) >>= fun selected =>
        pure (selected.map Picked.row) := by
  simp [readRows, checkOutAll, gatherItems, page]

/-- A checkout shows what a change of the same path and filter selects. -/
theorem exists_finds (shows : library.Shows held) (path : String) (filters : Filters) :
    ∃ result, Finds library held (find path (some filters)) result ∧
      Finds library held (readRows (checkOutAll path filters)) (result.map wholeRows) ∧
      ∀ selected, result = .ok selected → AreUnder held.nodes path (nodesOf selected) := by
  rw [readRows_checkOutAll]
  have gathers := finds_gather shows path
  cases resolved : (Namespace.ofTable held.nodes).resolve path with
  | error e =>
      rw [resolved] at gathers
      exact ⟨.error e, gathers.bind_error, gathers.bind_error, by rintro _ ⟨⟩⟩
  | ok entry =>
      rw [resolved] at gathers
      have distinct := MemoryStores.nodup_candidates shows.tree.sorted path
      have selects := finds_selectBy shows filters (held.candidates path)
      have found : Finds library held (find path (some filters)) _ := gathers.bind_ok selects
      refine ⟨_, found, gathers.bind_ok ?_, ?_⟩
      · have rows (selected : List Candidate) : (selected.map fun candidate =>
            (⟨candidate, ⟨path, [everyField]⟩⟩ : Picked)).map Picked.row = wholeRows selected := by
          simp [wholeRows, Picked.row, CheckOutItem.selectsAll, Function.comp_def]
        have all : addPicked ⟨path, [everyField]⟩ [] (held.candidates path) =
            (held.candidates path).map fun candidate => ⟨candidate, ⟨path, [everyField]⟩⟩ := by
          simp [addPicked_of_nodup _ distinct]
        rw [all, selectPicked_map, bind_map_left]
        simp only [rows]
        exact selects.map wholeRows
      · intro selected kept
        rw [kept] at found
        exact found.holds (prepares_find shows path (some filters))

/-! ## Changes -/

section Changes

variable {selected : List Candidate} {session : Session} {records : Table Record} {path : String}

theorem AreUnder.of_cons {nodes : Table Entry} {candidate : Candidate} {rest : List Candidate}
    (under : AreUnder nodes path (nodesOf (candidate :: rest))) :
    Table.get? nodes candidate.key = some candidate.entry ∧ candidate.entry.isShelf = true ∧
      AreUnder nodes path (nodesOf rest) :=
  ⟨under.registered _ List.mem_cons_self, under.kind _ List.mem_cons_self,
    under.sublist (List.sublist_cons_self _ _)⟩

/-- The record of a shelf in the normal form under the schema that binds it. -/
def conformed (library : Library) (key : String) (record : Record) : Except LibraryError Record :=
  match library.boundSchema? (Path.parent? key) with
  | some schema => (schema.validate record).mapError .validation
  | none => .ok record

theorem attains_conformed (key : String) (record : Record) :
    Action.Attains (conform key record) library held fun ended library' held' =>
      library' = library ∧ held' = held ∧ ended = library.conformed key record := by
  unfold conform conformed
  refine Action.ends_bind.mpr ?_
  simp only [Action.ends_get]
  cases library.boundSchema? (Path.parent? key) <;> exact ⟨rfl, rfl, rfl⟩

/-- The keys of candidates with their records, overwritten by some fields. -/
def merge (library : Library) (data : Record) (selected : List Candidate) :
    Except LibraryError (Table Record) :=
  selected.mapM fun candidate =>
    (library.conformed candidate.key (Table.overwrite candidate.record data)).map fun record =>
      (candidate.key, record)

theorem merge_cons (library : Library) (data : Record) (candidate : Candidate)
    (rest : List Candidate) :
    library.merge data (candidate :: rest) =
      library.conformed candidate.key (Table.overwrite candidate.record data) >>= fun record =>
        (library.merge data rest).map fun others => (candidate.key, record) :: others := by
  unfold merge
  rw [List.mapM_cons]
  cases library.conformed candidate.key (Table.overwrite candidate.record data) <;> rfl

theorem keys_of_merge {data : Record} {merged : Table Record}
    (made : library.merge data selected = .ok merged) :
    Table.keys merged = selected.map Candidate.key := by
  induction selected generalizing merged with
  | nil =>
      obtain rfl := Except.ok.inj made
      rfl
  | cons candidate rest ih =>
      rw [merge_cons] at made
      obtain ⟨record, -, made⟩ := Result.bind_eq_ok.mp made
      obtain ⟨others, later, rfl⟩ := Result.map_eq_ok.mp made
      exact congrArg _ (ih later)

/-- Revising candidates puts their records aside as they are to be, or fails before anything is
stored. -/
theorem attains_reviseAll (caches : session.Caches held records) (shows : library.Shows held)
    (data : Record) (under : AreUnder held.nodes path (nodesOf selected)) :
    Action.Attains (reviseAll data selected session) library held fun ended library' held' =>
      library' = library ∧ held' = held ∧
        match library.merge data selected with
        | .ok merged => ∃ session', ended = .ok ((), session') ∧
            session'.Caches held (Table.overwrite records merged)
        | .error e => ended = .error e := by
  induction selected generalizing session records with
  | nil => exact ⟨rfl, rfl, session, rfl, caches⟩
  | cons candidate rest ih =>
      obtain ⟨found, kind, others⟩ := under.of_cons
      rw [merge_cons]
      refine ends_lift_bind.mpr ((attains_conformed _ _).imp ?_)
      rintro _ library held ⟨rfl, rfl, rfl⟩
      cases library.conformed candidate.key (Table.overwrite candidate.record data) with
      | error e => exact ⟨rfl, rfl, rfl⟩
      | ok normal =>
          refine Action.ends_bind.mpr ((caches.attains_replace shows found kind normal).imp ?_)
          rintro _ library held ⟨rfl, rfl, between, rfl, caches⟩
          refine (ih caches others).imp ?_
          rintro ended library held ⟨rfl, rfl, went⟩
          refine ⟨rfl, rfl, ?_⟩
          cases made : library.merge data rest <;> rw [made] at went <;> exact went

/-- Emptying candidates replaces their records by empty ones. -/
theorem attains_emptyAll (caches : session.Caches held records) (shows : library.Shows held)
    (under : AreUnder held.nodes path (nodesOf selected)) :
    Action.Attains
      ((selected.forM fun target => Session.replace target.key target.entry []) session) library
        held fun ended library' held' => library' = library ∧ held' = held ∧
          ∃ session' after, ended = .ok ((), session') ∧ session'.Caches held after ∧
            ∀ key, Table.get? after key =
              if key ∈ selected.map Candidate.key then some [] else Table.get? records key := by
  induction selected generalizing session records with
  | nil => exact ⟨rfl, rfl, session, records, rfl, caches, by simp⟩
  | cons candidate rest ih =>
      obtain ⟨found, kind, others⟩ := under.of_cons
      refine Action.ends_bind.mpr ((caches.attains_replace shows found kind []).imp ?_)
      rintro _ _ _ ⟨rfl, rfl, between, rfl, caches⟩
      refine (ih caches others).imp ?_
      rintro ended _ _ ⟨rfl, rfl, session', after, rfl, caches, same⟩
      refine ⟨rfl, rfl, session', after, rfl, caches, fun key => ?_⟩
      rw [same key, Table.get?_insert, List.map_cons]
      by_cases later : key ∈ rest.map Candidate.key
      · simp [later]
      · simp [later, eq_comm]

theorem get?_map_empty (selected : List Candidate) (key : String) :
    Table.get? (selected.map fun candidate => (candidate.key, ([] : Record))) key =
      if key ∈ selected.map Candidate.key then some [] else none := by
  induction selected with
  | nil => rfl
  | cons candidate rest ih =>
      rw [List.map_cons, Table.get?_cons, ih]
      by_cases same : candidate.key = key
      · simp [same]
      · simp [same, Ne.symm same]

theorem placesOf_nodesOf (selected : List Candidate)
    (kind : ∀ node ∈ nodesOf selected, node.2.isShelf = true) :
    Location.placesOf (nodesOf selected) =
      (selected.map Candidate.key).map Location.placeOf := by
  rw [Location.placesOf, List.filter_eq_self.mpr kind, nodesOf, List.map_map, List.map_map]
  rfl

/-- A change comes to what it should with the candidates that have been found; where none can be, it
fails alike and changes nothing. -/
def Follows (library : Library) (held : MemoryStores)
    (result : Except LibraryError (List Candidate))
    (done : List Candidate → Except LibraryError Outcome → Library → MemoryStores → Prop)
    (ended : Except LibraryError Outcome) (library' : Library) (held' : MemoryStores) : Prop :=
  match result with
  | .ok selected => done selected ended library' held'
  | .error e => ended = .error e ∧ library' = library ∧ held' = held

/-- A revision comes to what it finds, each with its own record merged. -/
theorem attains_revise {filters : Option Filters} {result : Except LibraryError (List Candidate)}
    (finds : Finds library held (find path filters) result)
    (under : ∀ selected, result = .ok selected → AreUnder held.nodes path (nodesOf selected))
    (shows : library.Shows held) (data : Record) :
    Action.Attains (revise ⟨path, filters, data⟩) library held
      (Follows library held result fun selected ended library' held' =>
        library' = library ∧ match library.merge data selected with
          | .ok merged => ended = .ok (.revised selected.length) ∧ held.IsRewritten merged held'
          | .error e => ended = .error e ∧ held' = held) := by
  refine finds.once_bind (fun selected session found caches => ?_) ?_
  · subst found
    refine Action.ends_bind.mpr
      ((attains_reviseAll caches shows data (under selected rfl)).imp ?_)
    rintro ended library held ⟨rfl, rfl, went⟩
    simp only [Follows]
    cases made : library.merge data selected with
    | error e =>
        rw [made] at went
        subst went
        exact ⟨trivial, rfl, trivial⟩
    | ok merged =>
        rw [made] at went
        obtain ⟨session', rfl, caches⟩ := went
        refine Action.ends_bind.mpr ((caches.attains_commit shows).imp ?_)
        rintro _ library _ ⟨rfl, rfl, rewritten⟩
        have distinct : (Table.keys merged).Nodup := by
          rw [keys_of_merge made, ← keys_nodesOf]
          exact (under selected rfl).distinct
        refine ⟨rfl, ?_⟩
        rw [made]
        refine ⟨rfl, rewritten.congr fun key => ?_⟩
        rw [Table.get?_overwrite_of_nodup distinct, Table.get?_nil, Option.or_none]
  · rintro e rfl
    exact ⟨rfl, rfl, rfl⟩

section Found

variable {filters : Filters} {result : Except LibraryError (List Candidate)}
  (finds : Finds library held (find path (some filters)) result)
  (under : ∀ selected, result = .ok selected → AreUnder held.nodes path (nodesOf selected))

include finds under

/-- A revision that succeeds changes at most the records of what it has found. -/
theorem attains_revise_found (shows : library.Shows held) (data : Record) :
    Action.Attains (revise ⟨path, some filters, data⟩) library held
      (Follows library held result fun selected ended library' held' =>
        ∀ outcome, ended = .ok outcome →
          outcome = .revised selected.length ∧ library' = library ∧ ∃ records : Table Record,
            (∀ key ∈ Table.keys records, key ∈ selected.map Candidate.key) ∧
              held.IsRewritten records held') := by
  refine (attains_revise finds under shows data).imp fun ended library' held' follows => ?_
  cases result with
  | error e => exact follows
  | ok selected =>
      obtain ⟨rfl, went⟩ := follows
      rintro outcome rfl
      cases made : library'.merge data selected with
      | error e =>
          rw [made] at went
          cases went.1
      | ok merged =>
          rw [made] at went
          obtain ⟨same, rewritten⟩ := went
          refine ⟨Except.ok.inj same, rfl, merged, fun key listed => ?_, rewritten⟩
          rwa [← keys_of_merge made]

/-- A reset empties the records of what it has found, and changes nothing else. -/
theorem attains_reset_found (shows : library.Shows held) (isShelf isSection : Bool) :
    Action.Attains (reset ⟨path, some filters, isShelf, isSection⟩) library held
      (Follows library held result fun selected ended library' held' =>
        ended = .ok (.reset selected.length) ∧ library' = library ∧
          held.IsRewritten (selected.map fun candidate => (candidate.key, [])) held') := by
  refine Action.ends_bind.mpr (finds.once_bind (fun selected session found caches => ?_) ?_)
  · subst found
    refine Action.ends_bind.mpr ((attains_emptyAll caches shows (under selected rfl)).imp ?_)
    rintro _ library held ⟨rfl, rfl, session', records, rfl, caches, same⟩
    refine Action.ends_bind.mpr ((caches.attains_commit shows).imp ?_)
    rintro _ _ _ ⟨rfl, rfl, rewritten⟩
    refine ⟨rfl, rfl, rewritten.congr fun key => ?_⟩
    rw [same key, get?_map_empty, Table.get?_nil]
  · rintro e rfl
    exact ⟨rfl, rfl, rfl⟩

/-- A removal removes what it has found, and changes nothing else. -/
theorem attains_remove_found (mirrors : library.Mirrors held) (isShelf isSection : Bool) :
    Action.Attains (remove ⟨path, some filters, isShelf, isSection⟩) library held
      (Follows library held result fun selected ended library' held' =>
        let keys := selected.map Candidate.key
        ended = .ok (.removed selected.length) ∧
          library' = { library with nodes := .ofTable (Table.eraseAll held.nodes keys) } ∧
            held' = { held with
              nodes := Table.eraseAll held.nodes keys
              shelves := Table.eraseAll held.shelves (keys.map Location.placeOf) }) := by
  refine Action.ends_bind.mpr (finds.once.imp ?_)
  rintro result library held ⟨rfl, rfl, rfl⟩
  cases result with
  | error e => exact ⟨rfl, rfl, rfl⟩
  | ok selected =>
      have under := under selected rfl
      refine Action.ends_bind.mpr ?_
      rw [forM_deleteShelf under.kind]
      refine mirrors.attains_deleteNodes under.registered under.distinct ?_
      rw [keys_nodesOf, placesOf_nodesOf selected under.kind]
      exact ⟨rfl, rfl, rfl⟩

end Found

end Changes

theorem attains_checkOut_found {path : String} {filters : Filters}
    {result : Except LibraryError (List Candidate)}
    (shown : Finds library held (readRows (checkOutAll path filters)) (result.map wholeRows)) :
    Action.Attains (perform (.checkOut (checkOutAll path filters))) library held
      (Follows library held result fun selected ended library' held' =>
        ended = .ok (.checkedOut (wholeRows selected)) ∧ library' = library ∧ held' = held) := by
  refine Action.ends_bind.mpr (shown.once.imp ?_)
  rintro _ library held ⟨rfl, rfl, rfl⟩
  cases result <;> exact ⟨rfl, rfl, rfl⟩

theorem Follows.of_error {library' : Library} {held' : MemoryStores} {e : LibraryError} {done}
    {ended : Except LibraryError Outcome}
    (follows : Follows library held (.error e) done ended library' held') :
    (ended, library', held') = (.error e, library, held) :=
  Prod.ext follows.1 (Prod.ext follows.2.1 follows.2.2)

/-! ## Predictions -/

/-- What the keys that a checkout has shown say of what the changes of the same path and filter come
to. -/
structure Predicts (keys : List String) (path : String) (filters : Filters) (before : Library)
    (held : MemoryStores)
    (after : Operation → Except LibraryError Outcome × Library × MemoryStores) : Prop where
  /-- No key is shown twice. -/
  distinct : keys.Nodup
  /-- The keys are those of shelves. -/
  shelves : ∀ key ∈ keys, ∃ entry, Table.get? held.nodes key = some entry ∧ entry.isShelf = true
  /-- A revision that succeeds changes at most the records of these shelves. -/
  revised : ∀ data outcome, (after (.revise ⟨path, some filters, data⟩)).1 = .ok outcome →
    outcome = .revised keys.length ∧ (after (.revise ⟨path, some filters, data⟩)).2.1 = before ∧
      ∃ records : Table Record, (∀ key ∈ Table.keys records, key ∈ keys) ∧
        held.IsRewritten records (after (.revise ⟨path, some filters, data⟩)).2.2
  /-- A removal unregisters and deletes just these shelves. -/
  removed : ∀ isShelf isSection, after (.remove ⟨path, some filters, isShelf, isSection⟩) =
    (.ok (.removed keys.length),
      { before with nodes := .ofTable (Table.eraseAll held.nodes keys) },
      { held with
        nodes := Table.eraseAll held.nodes keys
        shelves := Table.eraseAll held.shelves (keys.map Location.placeOf) })
  /-- A reset empties the records of just these shelves. -/
  reset : ∀ isShelf isSection, ∃ held',
    after (.reset ⟨path, some filters, isShelf, isSection⟩) =
      (.ok (.reset keys.length), before, held') ∧
        held.IsRewritten (keys.map fun key => (key, [])) held'

variable {σ : Type} {stores : Stores σ} {view : σ → MemoryStores}

/-- What an operation comes to in memory it comes to in any faithful stores. -/
theorem runOn_execute (faithful : stores.AreFaithful view) {world : σ}
    (mirrors : library.Mirrors (view world)) (operation : Operation) :
    Prod.map id (Prod.map id view) ((execute (.single operation)).runOn stores library world) =
      (perform operation).runOn MemoryStores.answer library (view world) := by
  rw [← runOn_execute_single mirrors,
    runOn_memory faithful (attains_execute_single mirrors operation)]

theorem follows_execute (faithful : stores.AreFaithful view) {world : σ}
    (mirrors : library.Mirrors (view world)) {operation : Operation}
    {result : Except LibraryError (List Candidate)} {done}
    (ends : Action.Attains (perform operation) library (view world)
      (Follows library (view world) result done)) :
    let after := Prod.map id (Prod.map id view)
      ((execute (.single operation)).runOn stores library world)
    Follows library (view world) result done after.1 after.2.1 after.2.2 := by
  intro after
  rw [show after = _ from runOn_execute faithful mirrors operation]
  exact ends.runOn

/-- A checkout predicts what a change of the same path and filter does: just the shelves that it
shows are revised, removed or reset, and where it fails, the change fails alike. -/
theorem checkOutAll_predicts (faithful : stores.AreFaithful view) {world : σ}
    (mirrors : library.Mirrors (view world)) (path : String) (filters : Filters) :
    let after (operation : Operation) := Prod.map id (Prod.map id view)
      ((execute (.single operation)).runOn stores library world)
    match (after (.checkOut (checkOutAll path filters))).1 with
    | .ok outcome => ∃ rows : List Row, outcome = .checkedOut rows ∧
        Predicts (rows.map Row.path) path filters library (view world) after
    | .error e =>
        (∀ data, after (.revise ⟨path, some filters, data⟩) = (.error e, library, view world)) ∧
        (∀ isShelf isSection, after (.remove ⟨path, some filters, isShelf, isSection⟩) =
          (.error e, library, view world)) ∧
        ∀ isShelf isSection, after (.reset ⟨path, some filters, isShelf, isSection⟩) =
          (.error e, library, view world) := by
  intro after
  obtain ⟨result, finds, shown, under⟩ := exists_finds mirrors.shows path filters
  have follows (operation : Operation) {done}
      (ends : Action.Attains (perform operation) library (view world)
        (Follows library (view world) result done)) :
      Follows library (view world) result done (after operation).1 (after operation).2.1
        (after operation).2.2 := follows_execute faithful mirrors ends
  have checkedOut := follows _ (attains_checkOut_found shown)
  have revised := fun data => follows (.revise ⟨path, some filters, data⟩)
    (attains_revise_found finds under mirrors.shows data)
  have removed := fun isShelf isSection =>
    follows (.remove ⟨path, some filters, isShelf, isSection⟩)
      (attains_remove_found finds under mirrors isShelf isSection)
  have emptied := fun isShelf isSection =>
    follows (.reset ⟨path, some filters, isShelf, isSection⟩)
      (attains_reset_found finds under mirrors.shows isShelf isSection)
  clear_value after
  cases result with
  | error e =>
      rw [checkedOut.1]
      exact ⟨fun data => (revised data).of_error,
        fun isShelf isSection => (removed isShelf isSection).of_error,
        fun isShelf isSection => (emptied isShelf isSection).of_error⟩
  | ok selected =>
      rw [checkedOut.1]
      refine ⟨_, rfl, ?_⟩
      have under := under selected rfl
      have counted : (selected.map Candidate.key).length = selected.length := List.length_map _
      rw [keys_wholeRows]
      constructor
      case distinct => exact keys_nodesOf selected ▸ under.distinct
      case shelves =>
        intro key member
        obtain ⟨candidate, listed, rfl⟩ := List.mem_map.mp member
        have listed : (candidate.key, candidate.entry) ∈ nodesOf selected :=
          List.mem_map_of_mem listed
        exact ⟨_, under.registered _ listed, under.kind _ listed⟩
      case revised => exact fun data outcome done => counted ▸ revised data outcome done
      case removed =>
        intro isShelf isSection
        obtain ⟨done, state, world⟩ := removed isShelf isSection
        exact Prod.ext (counted ▸ done) (Prod.ext state world)
      case reset =>
        intro isShelf isSection
        obtain ⟨done, state, rewritten⟩ := emptied isShelf isSection
        refine ⟨_, Prod.ext (counted ▸ done) (Prod.ext state rfl), ?_⟩
        rw [List.map_map]
        exact rewritten

/-- A library with two pens. -/
private def pens : Library × MemoryStores :=
  runAll MemoryStores.answer (.empty, .empty)
    [.single (.buildSection ⟨none, "pens", none, none⟩),
      .single (.buildShelf ⟨some "pens", "blue", none, none⟩),
      .single (.write ⟨"pens.blue", [("cost", .int 2)]⟩),
      .single (.buildShelf ⟨some "pens", "red", none, none⟩),
      .single (.write ⟨"pens.red", [("cost", .int 1)]⟩)]

/-- One of them is predicted to change, with a filter that reads this very pen for the other one. -/
theorem checkOutAll_predicts_pen :
    let filters : Filters :=
      .single ⟨.text "cost", .lessThanOrEqual, .text "pens.red.cost", true, true⟩
    let after (operation : Operation) :=
      (execute (.single operation)).runOn MemoryStores.answer pens.1 pens.2
    Stores.AreFaithful MemoryStores.answer id ∧ pens.1.Mirrors pens.2 ∧
      Predicts ["pens.red"] "pens" filters pens.1 pens.2 after := by
  intro filters after
  have faithful := Stores.areFaithful_memory
  have mirrors : pens.1.Mirrors pens.2 := Mirrors.runAll faithful mirrors_empty _
  have shown : ((after (.checkOut (checkOutAll "pens" filters))).1.toOption.bind fun outcome =>
      outcome.rows?.map (List.map Row.path)) = some ["pens.red"] := by
    decide +kernel
  have predicts := checkOutAll_predicts faithful mirrors "pens" filters
  refine ⟨faithful, mirrors, ?_⟩
  dsimp only at predicts
  split at predicts
  case h_1 outcome ended =>
      rw [show (after (.checkOut (checkOutAll "pens" filters))).1 = _ from ended] at shown
      obtain ⟨rows, rfl, predicts⟩ := predicts
      exact Option.some.inj shown ▸ predicts
  case h_2 e ended =>
      rw [show (after (.checkOut (checkOutAll "pens" filters))).1 = _ from ended] at shown
      cases shown

end ShelfLibrary.Library
