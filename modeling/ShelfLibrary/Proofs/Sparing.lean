import ShelfLibrary.Proofs.Halfway

/-!
# Which changes spare the shelves

What a revision or a reset changes is a function of what is stored before.  It is stored in order
until a call fails, and nothing puts the shelves back that have been stored by then.  So a failure
spares all of them, whichever call it is, just if none but the last gets another record than it has.
-/

namespace ShelfLibrary

open Session

variable {α β : Type} {library : Library} {held now : MemoryStores} {faults : FaultPlan}
  {changes : Except LibraryError (Table Record)} {whole : Table Record}

/-! ## What is changed -/

namespace MemoryStores

/-- The shelves at or under a path that a filter keeps. -/
def chosen (held : MemoryStores) (path : String) (filters : Option Filters) :
    Except LibraryError (List Candidate) := do
  let _ ← (Namespace.ofTable held.nodes).resolve path
  held.selection filters id (held.candidates path)

/-- The shelves that a reset means. -/
def targets (held : MemoryStores) (step : Reset) : Except LibraryError (List Candidate) := do
  match step.filters with
  | some filters => held.chosen step.path (some filters)
  | none =>
    if step.isShelf then
      let _ ← (Namespace.ofTable held.nodes).resolveShelf step.path
      held.chosen step.path none
    else
      let _ ← (Namespace.ofTable held.nodes).resolveSection step.path
      held.chosen step.path none

theorem sorted_chosen (sorted : Table.Sorted held.nodes) {path : String} {filters : Option Filters}
    {selected : List Candidate} (made : held.chosen path filters = .ok selected) :
    selected.Pairwise fun left right => left.key < right.key := by
  obtain ⟨entry, -, made⟩ := Result.bind_eq_ok.mp made
  obtain ⟨-, rfl⟩ := selection_eq_ok.mp made
  exact (sorted_candidates sorted path).filter _

/-- Each shelf but the last of those that are to be given records has its record already. -/
def HasAllButLast (held : MemoryStores) (whole : Table Record) : Prop :=
  ∀ change ∈ whole.dropLast, (held.storedAt change.1).data = change.2

end MemoryStores

namespace Library

/-- The record that an edit of the field at a path gives to its shelf. -/
def edition (library : Library) (held : MemoryStores) (path : String)
    (edit : Record → List String → Option Record) : Except LibraryError (Table Record) := do
  let address ← (Namespace.ofTable held.nodes).resolveField path
  match edit (held.storedAt address.shelf).data address.names with
  | none => throw (.resolution (.notFound path))
  | some edited =>
    let normal ← library.conformed address.shelf edited
    return [(address.shelf, normal)]

/-- The records that a reset gives to shelves. -/
def clearance (library : Library) (held : MemoryStores) (step : Reset) :
    Except LibraryError (Table Record) :=
  if step.filters.isSome || step.isShelf || step.isSection then do
    let targets ← held.targets step
    return targets.map fun target => (target.key, [])
  else library.edition held step.path fun record names => Record.assign? record names .null

section Shown

variable (shows : library.Shows held)

include shows

theorem attempts_revise (step : Revise) :
    library.Attempts held faults (library.revision held step) (revise step) := by
  have whole : library.revision held step =
      held.chosen step.path step.filters >>= library.merge step.data := (bind_assoc _ _ _).symm
  have finds : Finds library held (find step.path step.filters)
      (held.chosen step.path step.filters) := finds_find shows step.path step.filters
  rw [whole]
  refine .once (.found (reads_find admits_all _ fun given _ => areClear_all given) finds
    (caches_nil held) fun selected session found caches => ?_)
  rw [found] at finds
  have under := finds.holds (prepares_find shows step.path step.filters)
  have reads := reads_reviseAll admits_all step.data selected
  have revises := attains_reviseAll caches shows step.data under
  cases made : library.merge step.data selected with
  | error e =>
      rw [made] at revises
      refine .after reads revises ?_ ?_
      · rintro _ _ ⟨⟩
      · rintro _ ⟨⟩
        rfl
  | ok merged =>
      rw [made] at revises
      have sorted : Table.Sorted merged := by
        refine List.pairwise_map.mp (?_ : (Table.keys merged).Pairwise (· < ·))
        rw [keys_of_merge made]
        exact List.pairwise_map.mpr (MemoryStores.sorted_chosen shows.tree.sorted found)
      refine .after reads revises ?_ ?_
      · rintro _ session ⟨_, ⟨⟩, caches⟩
        refine (caches.congr fun key => ?_).attempts_commit shows sorted _
        rw [Table.get?_overwrite_of_nodup (Table.nodup_keys sorted), Table.get?_nil,
          Option.or_none]
      · rintro _ ⟨_, ⟨⟩, -⟩

theorem finds_resetTargets (step : Reset) :
    Finds library held (resetTargets step) (held.targets step) := by
  have gathers : Finds library held (gather step.path) (held.chosen step.path none) := by
    rw [← bind_pure (gather step.path)]
    exact finds_find shows step.path none
  obtain ⟨path, filters, isShelf, isSection⟩ := step
  cases filters with
  | some filters => exact finds_find shows path (some filters)
  | none =>
      cases isShelf with
      | true => exact (finds_resolving shows).bind fun _ _ => gathers
      | false => exact (finds_resolving shows).bind fun _ _ => gathers

theorem sorted_targets {step : Reset} {targets : List Candidate}
    (found : held.targets step = .ok targets) :
    targets.Pairwise fun left right => left.key < right.key := by
  have sorted := shows.tree.sorted
  unfold MemoryStores.targets at found
  split at found
  · exact MemoryStores.sorted_chosen sorted found
  · split at found
    all_goals
      obtain ⟨_, -, found⟩ := Result.bind_eq_ok.mp found
      exact MemoryStores.sorted_chosen sorted found

theorem attempts_emptyShelves (step : Reset) :
    library.Attempts held faults
      (do
        let targets ← held.targets step
        return targets.map fun target => (target.key, []))
      (emptyShelves step) := by
  have finds := finds_resetTargets shows step
  refine .once (.found (reads_resetTargets admits_all step fun given _ => areClear_all given) finds
    (caches_nil held) fun targets session found caches => ?_)
  rw [found] at finds
  have under := finds.holds (prepares_resetTargets shows step)
  refine .after (.forM fun target => reads_replace _ _ _)
    (attains_emptyAll caches shows under) ?_ ?_
  · rintro _ session ⟨_, records, ⟨⟩, caches, same⟩
    refine (caches.congr fun key => ?_).attempts_commit shows
      (List.pairwise_map.mpr (sorted_targets shows found)) _
    rw [same key, get?_map_empty, Table.get?_nil]
  · rintro _ ⟨_, _, ⟨⟩, -⟩

theorem attempts_editField (path : String) (edit : Record → List String → Option Record) :
    library.Attempts held faults (library.edition held path edit) (editField path edit) := by
  refine .once (.found (.lift (reads_resolving admits_all fun nodes =>
    Namespace.isRefusal_resolveField nodes path)) (finds_resolving shows) (caches_nil held)
      fun address session found caches => ?_)
  obtain ⟨registered, kind, -⟩ := Namespace.of_resolveField found
  refine .found_ok (reads_record _ _) (.record shows registered kind) caches
    fun session caches => ?_
  cases edit (held.storedAt address.shelf).data address.names with
  | none => exact .throw session
  | some edited =>
      have conforms : Finds library held (liftM (conform address.shelf edited))
          (library.conformed address.shelf edited) := .lift (attains_conformed _ _)
      refine .found (.lift (reads_conform admits_all _ _)) conforms caches
        fun normal session _ caches => ?_
      refine .after (reads_replace _ _ _)
        (caches.attains_replace shows registered kind normal) ?_ ?_
      · rintro _ session ⟨_, ⟨⟩, caches⟩
        rw [← bind_pure commit]
        exact caches.attempts_commit shows (List.pairwise_singleton _ _) ()
      · rintro _ ⟨_, ⟨⟩, -⟩

end Shown

/-- What an operation attempts that gives other records to shelves. -/
inductive Rewrites (library : Library) (held : MemoryStores) :
    Operation → Except LibraryError (Table Record) → Prop
  /-- A revision. -/
  | revise (step : Revise) : Rewrites library held (.revise step) (library.revision held step)
  /-- A reset. -/
  | reset (step : Reset) : Rewrites library held (.reset step) (library.clearance held step)

theorem Rewrites.attempts_perform (shows : library.Shows held) {operation : Operation}
    (rewrites : library.Rewrites held operation changes) :
    library.Attempts held faults changes (perform operation) := by
  cases rewrites with
  | revise step => exact attempts_revise shows step
  | reset step =>
      change library.Attempts held faults _ (Library.reset step)
      unfold clearance Library.reset
      split
      · exact (attempts_emptyShelves shows step).report
      · exact (attempts_editField shows _ _).report

/-- In a library in use, a query attempts what its operation does. -/
theorem Attempts.execute (usable : library.isPoisoned = false) {operation : Operation}
    (attempts : library.Attempts held faults changes (perform operation)) :
    library.Attempts held faults changes (execute (.single operation)) := by
  intro world same kept
  unfold Library.execute
  refine Action.ends_bind.mpr ?_
  simp only [Action.ends_get, usable, Bool.false_eq_true, if_false]
  refine Action.ends_tryCatch.mpr ((attempts world same kept).imp ?_)
  intro result _ after attempted
  cases result with
  | ok outcome => exact attempted
  | error e => cases fatal : e.isFatal <;> simpa [fatal] using attempted

end Library

/-! ## Spared shelves -/

/-- The plan by which the shelf of a key cannot be stored. -/
def FaultPlan.sealing (key : String) : FaultPlan
  | _, .storeShelf location _ => if location = .ofKey key then some (.backend "sealed") else none
  | _, _ => none

namespace Library

section Spared

variable {σ : Type} (stores : Stores σ) (view : σ → MemoryStores) (library : Library) (world : σ)
  (operation : Operation)

/-- What an operation comes to when calls fail by a plan. -/
def runUnder (faults : FaultPlan) : Except LibraryError Outcome × MemoryStores :=
  let after := (execute (.single operation)).runOn (FaultyStores.answer stores) library
    ⟨world, faults, 0, 0⟩
  (after.1, view after.2.2.stores)

/-- If an operation fails when calls fail by a plan, every shelf is as it was. -/
def Spares (faults : FaultPlan) : Prop :=
  ∀ e, (runUnder stores view library world operation faults).1 = .error e → ∀ place,
    Table.get? (runUnder stores view library world operation faults).2.shelves place =
      Table.get? (view world).shelves place

end Spared

variable {σ : Type} {stores : Stores σ} {view : σ → MemoryStores}

theorem isAttempted_runUnder (faults : FaultPlan) (faithful : stores.AreFaithful view) {world : σ}
    (shows : library.Shows (view world)) (usable : library.isPoisoned = false)
    {operation : Operation} (rewrites : library.Rewrites (view world) operation changes) :
    (view world).IsAttempted faults changes
      (runUnder stores view library world operation faults).1
      (runUnder stores view library world operation faults).2 := by
  have attempts : library.Attempts (view world) faults changes (execute (.single operation)) :=
    (rewrites.attempts_perform shows).execute usable
  have attempted := attempts ⟨view world, faults, 0, 0⟩ rfl rfl
  have seen : (⟨world, faults, 0, 0⟩ : FaultyStores σ).seen view = ⟨view world, faults, 0, 0⟩ := rfl
  obtain ⟨result, -, after⟩ :=
    Action.runOn_of_follow (FaultyStores.follow faithful) seen attempted
  have attempted := attempted.runOn
  rw [← result, ← after] at attempted
  exact attempted

/-- A shelf that has its new record already is left as it is. -/
theorem get?_eq_of_isRewritten {made : Table Record} (stands : library.Stands held)
    (rewritten : held.IsRewritten made now)
    (registered : ∀ key ∈ Table.keys made,
      ∃ entry, Table.get? held.nodes key = some entry ∧ entry.isShelf = true)
    (same : ∀ change ∈ made, (held.storedAt change.1).data = change.2) (place : String) :
    Table.get? now.shelves place = Table.get? held.shelves place := by
  by_cases elsewhere : ∀ key ∈ Table.keys made, place ≠ Location.placeOf key
  · exact rewritten.kept place elsewhere
  · push Not at elsewhere
    obtain ⟨key, listed, rfl⟩ := elsewhere
    obtain ⟨entry, found, kind⟩ := registered key listed
    obtain ⟨old, stored⟩ := Table.contains_iff.mp (stands.stored key entry found kind)
    obtain ⟨record, replaced⟩ := Option.isSome_iff_exists.mp (Table.mem_keys_iff.mp listed)
    have there := MemoryStores.storedAt_of_get? stored
    have same : old.data = record := by
      rw [← there]
      exact same (key, record) (Table.mem_of_get? replaced)
    rw [rewritten.replaced key _ replaced, there, stored, ← same]

/-- Where all shelves but the last have their new records already, a failure leaves every shelf as
it was. -/
theorem get?_eq_of_isAttempted (stands : library.Stands held) {e : LibraryError}
    (attempted : held.IsAttempted faults changes (.error e : Except LibraryError α) now)
    (given : ∀ whole, changes = .ok whole → held.HasAllButLast whole) (place : String) :
    Table.get? now.shelves place = Table.get? held.shelves place := by
  cases attempted with
  | refused impossible => rfl
  | unread fault => rfl
  | @stored whole _ _ known sorted registered stored =>
      cases stored with
      | @broken made rest key record _ _ _ _ split fault rewritten =>
          subst split
          have before : made ⊆ (made ++ (key, record) :: rest).dropLast := by
            rw [List.dropLast_append_of_ne_nil (List.cons_ne_nil _ _)]
            exact List.subset_append_left _ _
          have part : List.Sublist made (made ++ (key, record) :: rest) :=
            List.sublist_append_left _ _
          exact get?_eq_of_isRewritten stands rewritten
            (fun key listed => registered key ((part.map Prod.fst).subset listed))
            (fun change member => given _ known change (before member)) place

/-- Where the last shelf cannot be stored and the failure leaves every shelf as it was, the others
had their new records already. -/
theorem hasAllButLast_of_sealed {result : Except LibraryError α} {front : Table Record}
    {last : String × Record}
    (attempted : held.IsAttempted (.sealing last.1) (.ok (front ++ [last])) result now)
    (spared : ∀ e, result = .error e → ∀ place,
      Table.get? now.shelves place = Table.get? held.shelves place) :
    held.HasAllButLast (front ++ [last]) := by
  rintro ⟨key, record⟩ listed
  rw [List.dropLast_concat] at listed
  cases attempted with
  | refused impossible => cases impossible
  | unread fault => cases fault
  | @stored whole _ _ known sorted registered stored =>
      obtain rfl := Except.ok.inj known
      have before : key < last.1 :=
        (List.pairwise_append.mp sorted).2.2 _ listed _ (List.mem_singleton_self last)
      cases stored with
      | finished accepted rewritten =>
          obtain ⟨calls, contents, free⟩ :=
            accepted last.1 (List.mem_map_of_mem (List.mem_append_right _ List.mem_cons_self))
          simp [FaultPlan.sealing] at free
      | @broken made rest other _ _ _ cause _ split fault rewritten =>
          have stopped : other = last.1 := by
            by_contra apart
            have elsewhere : Location.ofKey other ≠ .ofKey last.1 :=
              fun same => apart (congrArg Location.key same)
            simp [FaultPlan.sealing, elsewhere] at fault
          have member := List.mem_append_left [last] listed
          rw [split] at sorted member
          rw [← stopped] at before
          obtain ⟨madeSorted, onward, -⟩ := List.pairwise_append.mp sorted
          have first : (key, record) ∈ made := by
            refine (List.mem_append.mp member).resolve_right fun after => ?_
            rcases List.mem_cons.mp after with same | after
            · exact before.ne (congrArg Prod.fst same)
            · exact lt_asymm before ((List.pairwise_cons.mp onward).1 _ after)
          have replaced := rewritten.replaced key record (Table.get?_of_mem madeSorted first)
          rw [spared _ rfl] at replaced
          rw [MemoryStores.storedAt_of_get? replaced]

/-- A revision or a reset stores what it changes in order until a call fails.  So whichever calls
fail, and even if it is the storing of a single shelf, a failure leaves every shelf as it was just
if all shelves but the last one have the records already that they are to be given. -/
theorem spares_iff_hasAllButLast (faithful : stores.AreFaithful view) {world : σ}
    (stands : library.Stands (view world)) (usable : library.isPoisoned = false)
    {operation : Operation} (rewrites : library.Rewrites (view world) operation changes) :
    (∀ faults, (view world).IsAttempted faults changes
      (runUnder stores view library world operation faults).1
      (runUnder stores view library world operation faults).2) ∧
    [∀ faults, Spares stores view library world operation faults,
      ∀ key, Spares stores view library world operation (.sealing key),
      ∀ whole, changes = .ok whole → (view world).HasAllButLast whole].TFAE := by
  have attempted (faults : FaultPlan) :=
    isAttempted_runUnder faults faithful stands.toShows usable rewrites
  refine ⟨attempted, ?_⟩
  tfae_have 1 → 2 := fun spared key => spared (.sealing key)
  tfae_have 2 → 3 := by
    rintro spared whole rfl
    rcases List.eq_nil_or_concat whole with rfl | ⟨front, last, rfl⟩
    · simp [MemoryStores.HasAllButLast]
    · rw [List.concat_eq_append] at attempted ⊢
      exact hasAllButLast_of_sealed (attempted (.sealing last.1)) (spared last.1)
  tfae_have 3 → 1 := by
    intro given faults e failed
    have attempted := attempted faults
    rw [failed] at attempted
    exact get?_eq_of_isAttempted stands attempted given
  tfae_finish

/-- A library with two pens that nothing is known of. -/
private def blankPens : Library × MemoryStores :=
  runAll MemoryStores.answer (.empty, .empty)
    [.single (.buildSection ⟨none, "pens", none, none⟩),
      .single (.buildShelf ⟨some "pens", "blue", none, none⟩),
      .single (.buildShelf ⟨some "pens", "red", none, none⟩)]

/-- A price for the pens at or under a path. -/
private def costing (path : String) : Revise := ⟨path, none, [("cost", .int 5)]⟩

/-- Whatever fails, a price for one pen leaves both as they were if it is not given.  A price for
both of them may be given to the first one only. -/
theorem spares_iff_hasAllButLast_pens :
    let spares (path : String) (faults : FaultPlan) :=
      Spares MemoryStores.answer id blankPens.1 blankPens.2 (.revise (costing path)) faults
    Stores.AreFaithful MemoryStores.answer id ∧ blankPens.1.Stands blankPens.2 ∧
      blankPens.1.isPoisoned = false ∧
      (∀ path, blankPens.1.Rewrites blankPens.2 (.revise (costing path))
        (blankPens.1.revision blankPens.2 (costing path))) ∧
      (∀ faults, spares "pens.red" faults) ∧ ¬∀ key, spares "pens" (.sealing key) := by
  intro spares
  have faithful := Stores.areFaithful_memory
  have mirrors : blankPens.1.Mirrors blankPens.2 := Mirrors.runAll faithful mirrors_empty _
  have rewrites (path : String) : blankPens.1.Rewrites blankPens.2 (.revise (costing path))
      (blankPens.1.revision blankPens.2 (costing path)) := .revise _
  have exactly (path : String) :=
    (spares_iff_hasAllButLast faithful mirrors.stands mirrors.usable (rewrites path)).2
  refine ⟨faithful, mirrors.stands, mirrors.usable, rewrites, ?_, fun spared => ?_⟩
  · refine ((exactly "pens.red").out 0 2).mpr fun whole made => ?_
    have single : ((blankPens.1.revision blankPens.2 (costing "pens.red")).toOption.all
        fun whole => whole.dropLast.isEmpty) = true := by decide +kernel
    rw [made] at single
    rintro change listed
    rw [List.isEmpty_iff.mp single] at listed
    cases listed
  · have both : ((blankPens.1.revision blankPens.2 (costing "pens")).toOption.any
        fun whole => ∃ change ∈ whole.dropLast,
          (blankPens.2.storedAt change.1).data.length ≠ change.2.length) = true := by
      decide +kernel
    obtain ⟨whole, made, change, listed, unequal⟩ := Result.exists_of_any both
    have given := ((exactly "pens").out 1 2).mp spared
    exact unequal (congrArg List.length (given whole made change listed))

/-- Where the second pen cannot be stored, pricing both fails, and the first one keeps its price. -/
theorem revise_breaks_off_pens :
    let after := runUnder MemoryStores.answer id blankPens.1 blankPens.2 (.revise (costing "pens"))
      (.named ["shelf.store:pens/red"])
    after.1 = .error (.storage (.backend "injected shelf.store")) ∧
      Table.get? blankPens.2.shelves "pens/blue" = some ⟨[], none⟩ ∧
        Table.get? after.2.shelves "pens/blue" = some ⟨[("cost", .int 5)], none⟩ := by
  refine ⟨?_, ?_, ?_⟩ <;> rfl

end Library

end ShelfLibrary
