import ShelfLibrary.Library.Change
import ShelfLibrary.Proofs.Evaluation
import ShelfLibrary.Proofs.Reading

/-!
# Work that only reads

An operation begins by reading: it resolves paths, loads shelves, evaluates filters and holds
changes back.  Such work makes no call but to load a shelf, gives up as soon as a load is refused,
leaves the library as it is and fails by itself only with refusals.
-/

namespace ShelfLibrary

variable {s α β : Type} {refusal : LibraryError → Prop}

/-! ## Plans that read -/

/-- Every call of a plan loads a shelf, the plan ends where that is refused, and elsewhere it ends
in the state that it began with, with a result or with an error of some kind. -/
def Plan.Reads (refusal : LibraryError → Prop) (state : s) :
    Plan (Except LibraryError α × s) → Prop
  | .done (result, after) => after = state ∧ ∀ e, result = .error e → refusal e
  | .call (.loadShelf _) next =>
    (∀ cause, next (.error cause) = .done (.error (.storage cause), state)) ∧
      ∀ contents, (next (.ok contents)).Reads refusal state
  | .call _ _ => False

namespace Action

/-- An action only reads, from every state. -/
def Reads (refusal : LibraryError → Prop) (action : Action s α) : Prop :=
  ∀ state, (action state).Reads refusal state

namespace Reads

theorem pure (value : α) : Reads refusal (pure value : Action s α) :=
  fun _ => ⟨rfl, by rintro e ⟨⟩⟩

theorem throw {e : LibraryError} (allowed : refusal e) : Reads refusal (throw e : Action s α) :=
  fun _ => ⟨rfl, by rintro _ ⟨rfl⟩; exact allowed⟩

theorem get : Reads refusal (get : Action s s) :=
  fun _ => ⟨rfl, by rintro e ⟨⟩⟩

theorem ofExcept {result : Except LibraryError α} (allowed : ∀ e, result = .error e → refusal e) :
    Reads refusal (ofExcept result : Action s α) :=
  fun _ => ⟨rfl, allowed⟩

theorem load (location : Location) :
    Reads refusal (ask (.loadShelf location) : Action s (Option ShelfData)) :=
  fun _ => ⟨fun _ => rfl, fun _ => ⟨rfl, by rintro e ⟨⟩⟩⟩

theorem bind {first : Action s α} {next : α → Action s β} (start : Reads refusal first)
    (onward : ∀ value, Reads refusal (next value)) : Reads refusal (first >>= next) := by
  intro state
  have plans (plan : Plan (Except LibraryError α × s)) (reads : plan.Reads refusal state) :
      (plan.andThen (Action.onward next)).Reads refusal state := by
    induction plan with
    | done ended =>
        obtain ⟨result, after⟩ := ended
        obtain ⟨rfl, allowed⟩ := reads
        cases result with
        | ok value => exact onward value after
        | error e =>
            refine ⟨rfl, ?_⟩
            rintro _ ⟨rfl⟩
            exact allowed e rfl
    | call request rest ih =>
        cases request with
        | loadShelf location =>
            refine ⟨fun cause => ?_, fun contents => ih _ (reads.2 contents)⟩
            simp only [reads.1 cause]
            rfl
        | _ => exact reads
  rw [bind_eq_andThen]
  exact plans _ (start state)

end Reads

end Action

namespace Session

/-- A task only reads, whatever has been read before. -/
def Reads (refusal : LibraryError → Prop) (task : Session.Task α) : Prop :=
  ∀ session, Action.Reads refusal (task session)

namespace Reads

theorem pure (value : α) : Reads refusal (pure value) :=
  fun session => Action.Reads.pure (value, session)

theorem throw {e : LibraryError} (allowed : refusal e) : Reads refusal (throw e : Session.Task α) :=
  fun _ => Action.Reads.throw allowed

theorem bind {first : Session.Task α} {next : α → Session.Task β} (start : Reads refusal first)
    (onward : ∀ value, Reads refusal (next value)) : Reads refusal (first >>= next) :=
  fun session => (start session).bind fun (value, session) => onward value session

theorem lift {action : Action Library α} (reads : Action.Reads refusal action) :
    Reads refusal (liftM action : Session.Task α) :=
  fun session => reads.bind fun value => .pure (value, session)

theorem get : Reads refusal (get : Session.Task Session) :=
  fun session => Action.Reads.pure (session, session)

theorem modify (change : Session → Session) : Reads refusal (modify change : Session.Task PUnit) :=
  fun session => Action.Reads.pure (PUnit.unit, change session)

theorem mapM {items : List α} {step : α → Session.Task β}
    (steps : ∀ item, Reads refusal (step item)) :
    Reads refusal (items.mapM step) := by
  induction items with
  | nil => exact pure []
  | cons item rest ih =>
      rw [List.mapM_cons]
      exact (steps item).bind fun value => ih.bind fun values => pure (value :: values)

theorem forM {items : List α} {step : α → Session.Task PUnit}
    (steps : ∀ item, Reads refusal (step item)) : Reads refusal (items.forM step) := by
  induction items with
  | nil => exact pure PUnit.unit
  | cons item rest ih => exact bind (steps item) fun _ => ih

theorem composes : Composes fun α (task : Session.Task α) => Reads refusal task :=
  ⟨pure, bind⟩

theorem once {task : Session.Task α} (reads : Reads refusal task) :
    Action.Reads refusal (once task) :=
  (reads []).bind fun (value, _) => .pure value

end Reads

end Session

/-! ## Reading shelves -/

section Shelves

open Session

/-- Refusals by validation and by resolution are of the kind that reading may fail with. -/
def Admits (refusal : LibraryError → Prop) : Prop :=
  ∀ e : LibraryError, e.isRecoverable = true → refusal e

/-- What is evaluated as a filter is sound, or faults of evaluation are of the kind that reading may
fail with. -/
def Filters.AreClear (refusal : LibraryError → Prop) (filters : Filters) : Prop :=
  FilterItem.IsExpression filters.items ∧ FilterItem.AreSound filters.items ∨
    ∀ reason, refusal (.internal reason)

namespace Session

theorem reads_openShelf (key : String) (entry : Entry) : Reads refusal (openShelf key entry) := by
  refine Reads.get.bind fun session => ?_
  split
  · exact .pure _
  · exact (Reads.lift (.load _)).bind fun stored => (Reads.modify _).bind fun _ => .pure _

theorem reads_record (key : String) (entry : Entry) : Reads refusal (record key entry) :=
  (reads_openShelf key entry).bind fun _ => .pure _

theorem reads_replace (key : String) (entry : Entry) (data : Record) :
    Reads refusal (replace key entry data) :=
  (reads_openShelf key entry).bind fun _ => Reads.modify _

end Session

namespace Library

variable (admits : Admits refusal)

include admits

theorem reads_ofExcept {result : Except LibraryError α} (refuses : Result.IsRefusal result) :
    Action.Reads refusal (Action.ofExcept result : Action s α) :=
  .ofExcept fun e failed => admits e (refuses e failed)

theorem reads_resolving {find : Namespace → Except LibraryError α}
    (refuses : ∀ nodes, Result.IsRefusal (find nodes)) : Action.Reads refusal (resolving find) :=
  Action.Reads.get.bind fun library => reads_ofExcept admits (refuses library.nodes)

theorem reads_validated (result : Except ValidationError α) :
    Action.Reads refusal (Action.validated result : Action s α) :=
  reads_ofExcept admits (Result.isRefusal_validation result)

theorem reads_conform (key : String) (record : Record) :
    Action.Reads refusal (conform key record) := by
  refine Action.Reads.get.bind fun library => ?_
  split
  · exact reads_validated admits _
  · exact .pure _

theorem reads_firstRecord (step : BuildShelf) : Action.Reads refusal (firstRecord step) := by
  unfold firstRecord
  split
  · refine Action.Reads.get.bind fun library => ?_
    split
    · exact .pure _
    · split
      · exact reads_validated admits _
      · exact .throw (admits _ rfl)
  · exact .pure _

theorem reads_gather (path : String) : Reads refusal (gather path) := by
  refine (Reads.lift (reads_resolving admits fun nodes =>
    isRefusal_shelvesUnder nodes path)).bind ?_
  exact fun shelves => .mapM fun node => (reads_record _ _).bind fun _ => .pure _

theorem reads_operand (candidate : Candidate) (path : String) :
    Reads refusal (operand candidate path) := by
  unfold operand
  split
  · exact .pure _
  · refine (Reads.lift .get).bind fun library => ?_
    split
    · exact (reads_record _ _).bind fun _ => .pure _
    · rename_i e refused
      split
      · exact .pure _
      · exact .throw (admits e (Namespace.isRefusal_resolveField _ path e refused))

theorem reads_evaluate {filters : Filters} (clear : filters.AreClear refusal)
    (candidate : Candidate) : Reads refusal (filters.evaluate (operand candidate)) := by
  refine FilterItem.holds_evaluateItems Reads.composes filters.items (fun leaf _ => ?_)
    (clear.imp_right fun allowed reason => Reads.throw (allowed reason))
  exact Condition.holds_evaluate Reads.composes (reads_operand admits candidate)
    (fun cause => Reads.throw (admits _ rfl)) leaf

theorem reads_selectBy {filters : Filters} (clear : filters.AreClear refusal)
    (candidates : List Candidate) : Reads refusal (selectBy filters candidates) := by
  induction candidates with
  | nil => exact .pure _
  | cons candidate rest ih =>
      exact (reads_evaluate admits clear candidate).bind fun _ => ih.bind fun _ => .pure _

theorem reads_find (path : String) {filters : Option Filters}
    (clear : ∀ given, filters = some given → given.AreClear refusal) :
    Reads refusal (find path filters) := by
  refine (reads_gather admits path).bind fun candidates => ?_
  cases filters with
  | none => exact .pure _
  | some given => exact reads_selectBy admits (clear given rfl) candidates

theorem reads_reviseAll (data : Record) (candidates : List Candidate) :
    Reads refusal (reviseAll data candidates) := by
  induction candidates with
  | nil => exact .pure _
  | cons candidate rest ih =>
      exact (Reads.lift (reads_conform admits _ _)).bind fun _ =>
        (reads_replace _ _ _).bind fun _ => ih

theorem reads_resetTargets (step : Reset)
    (clear : ∀ given, step.filters = some given → given.AreClear refusal) :
    Reads refusal (resetTargets step) := by
  unfold resetTargets
  split
  · rename_i filters given
    exact reads_find admits step.path fun other same => clear other (given.trans same)
  · split
    · exact (Reads.lift (reads_resolving admits fun nodes =>
        Namespace.isRefusal_resolveShelf nodes step.path)).bind fun _ => reads_gather admits _
    · exact (Reads.lift (reads_resolving admits fun nodes =>
        Namespace.isRefusal_resolveSection nodes step.path)).bind fun _ => reads_gather admits _

/-! ## Checkouts -/

theorem reads_gatherItems (gathered : List Picked) (items : List CheckOutItem) :
    Reads refusal (gatherItems gathered items) := by
  induction items generalizing gathered with
  | nil => exact .pure _
  | cons item rest ih => exact (reads_gather admits item.path).bind fun _ => ih _

theorem reads_selectPicked {filters : Filters} (clear : filters.AreClear refusal)
    (all : List Picked) : Reads refusal (selectPicked filters all) := by
  induction all with
  | nil => exact .pure _
  | cons picked rest ih =>
      exact (reads_evaluate admits clear picked.candidate).bind fun _ => ih.bind fun _ => .pure _

theorem reads_sortPicked (criteria : List SortItem) (all : List Picked) :
    Reads refusal (sortPicked criteria all) := by
  have keys (picked : Picked) : Reads refusal (sortKeys criteria picked) :=
    .mapM fun item => reads_operand admits picked.candidate item.path
  exact (Reads.mapM fun picked => (keys picked).bind fun _ => .pure _).bind fun _ => .pure _

theorem reads_readRows (step : CheckOut)
    (clear : ∀ given, step.filters = some given → given.AreClear refusal) :
    Reads refusal (readRows step) := by
  let finish (sorted : List Picked) : Session.Task (List Row) :=
    pure ((page step.offset step.limit sorted).map Picked.row)
  have sorting (selected : List Picked) : Reads refusal
      (if step.sort.isEmpty then pure selected >>= finish
        else sortPicked step.sort selected >>= finish) := by
    split
    · exact .pure _
    · exact (reads_sortPicked admits step.sort selected).bind fun _ => .pure _
  refine (reads_gatherItems admits [] step.items).bind fun gathered => ?_
  cases given : step.filters with
  | none => exact sorting gathered
  | some filters =>
      exact (reads_selectPicked admits (clear filters given) gathered).bind sorting

end Library

end Shelves

end ShelfLibrary
