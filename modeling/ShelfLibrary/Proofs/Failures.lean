import ShelfLibrary.Proofs.Readers
import ShelfLibrary.Proofs.Transaction

/-!
# Operations that fail

Over stores that refuse no proper call an operation fails only with a refusal by validation or by
resolution, and then nothing has been changed: neither the library nor what its stores hold.
-/

namespace ShelfLibrary

variable {s t α β : Type} {library : Library} {held : MemoryStores}

/-! ## Plans all of whose calls are answered -/

/-- A goal holds wherever a plan ends none of whose calls is refused. -/
def Plan.Serves (goal : α → Prop) : Plan α → Prop
  | .done result => goal result
  | .call _ next => ∀ answer, (next (.ok answer)).Serves goal

theorem Plan.Serves.imp {plan : Plan α} {goal weaker : α → Prop} (serves : plan.Serves goal)
    (weaken : ∀ result, goal result → weaker result) : plan.Serves weaker := by
  induction plan with
  | done result => exact weaken result serves
  | call request next ih => exact fun answer => ih _ (serves answer)

theorem Plan.Serves.andThen {plan : Plan α} {next : α → Plan β} {goal : β → Prop}
    (serves : plan.Serves fun result => (next result).Serves goal) :
    (plan.andThen next).Serves goal := by
  induction plan with
  | done result => exact serves
  | call request rest ih => exact fun answer => ih _ (serves answer)

theorem Plan.Serves.run {plan : Plan α} {goal : α → Prop} (serves : plan.Serves goal)
    {reached : α → MemoryStores → Prop}
    (ends : plan.Ends MemoryStores.answer StoreCall.IsProper held reached) :
    goal (plan.run MemoryStores.answer held).1 := by
  induction plan generalizing held with
  | done result => exact serves
  | call request next ih =>
      obtain ⟨proper, onward⟩ := ends
      obtain ⟨reply, answered⟩ := MemoryStores.exists_answer proper
      have continued : (next (MemoryStores.answer request held).1).Serves goal := by
        rw [answered]
        exact serves reply
      exact ih _ continued onward

/-- Only reading serves what it may fail with, and leaves its state alone. -/
theorem Plan.Reads.serves {refusal : LibraryError → Prop} {state : s}
    {plan : Plan (Except LibraryError α × s)} (reads : plan.Reads refusal state) :
    plan.Serves fun ended => ∀ e, ended.1 = .error e → refusal e := by
  induction plan with
  | done ended => exact reads.2
  | call request next ih =>
      cases request with
      | loadShelf location => exact fun contents => ih _ (reads.2 contents)
      | _ => exact reads.elim

namespace Action

/-- An action whose calls are all answered fails only with a refusal or with a fault that ends the
session. -/
def IsServed (action : Action s α) : Prop :=
  ∀ state, (action state).Serves fun ended =>
    ∀ e, ended.1 = .error e → e.isRecoverable = true ∨ e.isFatal = true

namespace IsServed

theorem pure (value : α) : IsServed (pure value : Action s α) := by
  rintro state e ⟨⟩

theorem throw {e : LibraryError} (allowed : e.isRecoverable = true ∨ e.isFatal = true) :
    IsServed (throw e : Action s α) := by
  rintro state _ ⟨rfl⟩
  exact allowed

theorem get : IsServed (get : Action s s) := by
  rintro state e ⟨⟩

theorem set (next : s) : IsServed (set next : Action s PUnit) := by
  rintro state e ⟨⟩

theorem modify (change : s → s) : IsServed (modify change : Action s PUnit) := by
  rintro state e ⟨⟩

theorem ask (request : StoreCall) : IsServed (ask request : Action s request.Answer) := by
  rintro state answer e ⟨⟩

theorem bind {first : Action s α} {next : α → Action s β} (start : IsServed first)
    (onward : ∀ value, IsServed (next value)) : IsServed (first >>= next) := by
  intro state
  refine ((start state).imp ?_).andThen
  rintro ⟨result, after⟩ allowed
  cases result with
  | ok value => exact onward value after
  | error e =>
      rintro _ ⟨rfl⟩
      exact allowed e rfl

theorem tryCatch {action : Action s α} {handler : LibraryError → Action s α}
    (start : IsServed action)
    (handles : ∀ e : LibraryError, e.isRecoverable = true ∨ e.isFatal = true →
      IsServed (handler e)) :
    IsServed (tryCatch action handler) := by
  intro state
  refine ((start state).imp ?_).andThen
  rintro ⟨result, after⟩ allowed
  cases result with
  | ok value => rintro _ ⟨⟩
  | error e => exact handles e (allowed e rfl) after

theorem on {view : t → s} {put : t → s → t} {action : Action s α} (serves : IsServed action) :
    IsServed (on view put action) :=
  fun whole => ((serves (view whole)).imp fun _ allowed => allowed).andThen

theorem of_reads {action : Action s α}
    (reads : Reads (fun e => e.isRecoverable = true) action) : IsServed action :=
  fun state => (reads state).serves.imp fun _ allowed e failed => .inl (allowed e failed)

theorem forM {items : List α} {step : α → Action s PUnit} (steps : ∀ item, IsServed (step item)) :
    IsServed (items.forM step) := by
  induction items with
  | nil => exact pure PUnit.unit
  | cons item rest ih => exact bind (steps item) fun _ => ih

end IsServed

end Action

namespace Session

/-- A task whose calls are all answered fails only with a refusal or with a fault that ends the
session. -/
def IsServed (task : Session.Task α) : Prop :=
  ∀ session, Action.IsServed (task session)

namespace IsServed

theorem bind {first : Session.Task α} {next : α → Session.Task β} (start : IsServed first)
    (onward : ∀ value, IsServed (next value)) : IsServed (first >>= next) :=
  fun session => (start session).bind fun (value, session) => onward value session

theorem of_reads {task : Session.Task α} (reads : Reads (fun e => e.isRecoverable = true) task) :
    IsServed task :=
  fun session => .of_reads (reads session)

theorem commit : IsServed commit := by
  intro session
  have stored (opened : Session) : Action.IsServed (storeAll opened) := by
    induction opened with
    | nil => exact .pure ()
    | cons shelf rest ih =>
        unfold storeAll
        split
        · exact (Action.IsServed.ask _).bind fun _ => ih
        · exact ih
  change Action.IsServed (Session.commit.run session)
  rw [run_commit]
  exact (stored session).bind fun _ => .pure _

theorem pure (value : α) : IsServed (pure value) :=
  fun session => Action.IsServed.pure (value, session)

theorem once {task : Session.Task α} (served : IsServed task) : Action.IsServed (once task) :=
  (served []).bind fun (value, _) => .pure value

end IsServed

end Session

/-! ## Changes -/

open Action (IsServed)

namespace Namespace

theorem isServed_verify (operation : String) : IsServed (verify operation) := by
  refine (IsServed.ask .countNodes).bind fun stored => IsServed.get.bind fun nodes => ?_
  split
  · exact .pure ()
  · exact .throw (.inr rfl)

theorem isServed_add (key : String) (entry : Entry) : IsServed (add key entry) := by
  have stored : IsServed (do
      let () ← Action.ask (.changeNodes (.put key entry))
      modify fun nodes => nodes.insert key entry
      verify "add" : Action Namespace Unit) :=
    (IsServed.ask _).bind fun _ => (IsServed.modify _).bind fun _ => isServed_verify _
  unfold add
  split
  · exact .throw (.inl rfl)
  · refine IsServed.get.bind fun nodes => ?_
    split
    · exact .throw (.inl rfl)
    · exact stored

theorem isServed_remove (key : String) : IsServed (remove key) := by
  refine IsServed.get.bind fun nodes => ?_
  split
  · exact .throw (.inl rfl)
  · exact (IsServed.ask _).bind fun _ => (IsServed.modify _).bind fun _ =>
      (isServed_verify _).bind fun _ => .pure _

end Namespace

/-- The filter of an operation. -/
def Operation.filters? : Operation → Option Filters
  | .checkOut step => step.filters
  | .revise step => step.filters
  | .remove step => step.filters
  | .reset step => step.filters
  | _ => none

namespace Library

theorem admits_recoverable : Admits fun e => e.isRecoverable = true :=
  fun _ recoverable => recoverable

theorem isServed_resolving {find : Namespace → Except LibraryError α}
    (refuses : ∀ nodes, Result.IsRefusal (find nodes)) : IsServed (resolving find) :=
  .of_reads (reads_resolving admits_recoverable refuses)

theorem isServed_editCatalog (edit : Catalog → Catalog) : IsServed (editCatalog edit) :=
  IsServed.get.bind fun _ => (IsServed.ask _).bind fun _ => .modify _

/-! ### Operations -/

theorem isServed_buildSection (step : BuildSection) : IsServed (buildSection step) := by
  refine (isServed_resolving fun nodes => Namespace.isRefusal_resolveTarget nodes _ _).bind ?_
  refine fun key => (IsServed.on (Namespace.isServed_add _ _)).bind fun _ => ?_
  refine (IsServed.tryCatch (isServed_editCatalog _) fun e allowed => ?_).bind fun _ => .pure _
  exact (IsServed.on (Namespace.isServed_remove key)).bind fun _ => .throw allowed

theorem isServed_discard (location : Location) : IsServed (discard location) :=
  .tryCatch ((IsServed.ask _).bind fun _ => .pure ()) fun _ _ => .pure ()

theorem isServed_buildShelf (step : BuildShelf) : IsServed (buildShelf step) := by
  refine (isServed_resolving fun nodes => Namespace.isRefusal_resolveTarget nodes _ _).bind ?_
  refine fun key => (IsServed.of_reads (reads_firstRecord admits_recoverable step)).bind ?_
  refine fun data => (IsServed.ask _).bind fun _ => ?_
  refine (IsServed.tryCatch (.on (Namespace.isServed_add _ _)) fun e allowed => ?_).bind
    fun _ => .pure _
  exact (isServed_discard _).bind fun _ => .throw allowed

theorem isServed_write (step : Write) : IsServed (write step) := by
  refine Session.IsServed.once ?_
  refine (Session.IsServed.of_reads (.lift (reads_resolving admits_recoverable fun nodes =>
    Namespace.isRefusal_resolveShelf nodes step.path))).bind fun entry => ?_
  refine (Session.IsServed.of_reads (Session.reads_record _ _)).bind fun record => ?_
  refine (Session.IsServed.of_reads (.lift (reads_ofExcept admits_recoverable
    (isRefusal_addFields step.path record step.data)))).bind fun widened => ?_
  refine (Session.IsServed.of_reads (.lift (reads_conform admits_recoverable _ widened))).bind ?_
  refine fun normal => (Session.IsServed.of_reads
    (Session.reads_replace _ _ normal)).bind fun _ => ?_
  exact Session.IsServed.commit.bind fun _ => .pure _

theorem isServed_revise (step : Revise)
    (clear : ∀ given, step.filters = some given → given.AreClear fun e => e.isRecoverable = true) :
    IsServed (revise step) := by
  refine Session.IsServed.once ?_
  refine (Session.IsServed.of_reads (reads_find admits_recoverable step.path clear)).bind ?_
  refine fun selected => (Session.IsServed.of_reads
    (reads_reviseAll admits_recoverable step.data selected)).bind fun _ => ?_
  exact Session.IsServed.commit.bind fun _ => .pure _

theorem isServed_editField (path : String) (edit : Record → List String → Option Record) :
    IsServed (editField path edit) := by
  refine Session.IsServed.once ?_
  refine (Session.IsServed.of_reads (.lift (reads_resolving admits_recoverable fun nodes =>
    Namespace.isRefusal_resolveField nodes path))).bind fun address => ?_
  refine (Session.IsServed.of_reads (Session.reads_record _ _)).bind fun record => ?_
  cases edit record address.names with
  | none => exact .of_reads (.throw rfl)
  | some edited =>
      refine (Session.IsServed.of_reads (.lift (reads_conform admits_recoverable _ edited))).bind ?_
      refine fun normal => (Session.IsServed.of_reads (Session.reads_replace _ _ normal)).bind ?_
      exact fun _ => Session.IsServed.commit

theorem isServed_deleteNodes (gone : List Namespace.Node) : IsServed (deleteNodes gone) := by
  induction gone with
  | nil => exact .pure ()
  | cons node rest ih =>
      refine (IsServed.on (Namespace.isServed_remove node.1)).bind fun _ => ?_
      split
      · exact (IsServed.ask _).bind fun _ => ih
      · exact ih

theorem isServed_remove (step : Remove)
    (clear : ∀ given, step.filters = some given → given.AreClear fun e => e.isRecoverable = true) :
    IsServed (remove step) := by
  have deleted (key : String) (entry : Entry) : IsServed (deleteShelf key entry) :=
    (IsServed.on (Namespace.isServed_remove key)).bind fun _ => .ask _
  unfold remove
  split
  · rename_i filters given
    have found : Session.Reads (fun e => e.isRecoverable = true) (find step.path (some filters)) :=
      reads_find admits_recoverable step.path fun other same => clear other (given.trans same)
    refine (Session.IsServed.once (.of_reads found)).bind fun selected => ?_
    have swept : IsServed (selected.forM fun candidate =>
        deleteShelf candidate.key candidate.entry) :=
      .forM fun candidate => deleted candidate.key candidate.entry
    exact swept.bind fun _ => .pure _
  · split
    · refine (isServed_resolving fun nodes =>
        Namespace.isRefusal_resolveShelf nodes step.path).bind fun entry => ?_
      exact (deleted step.path entry).bind fun _ => .pure _
    · split
      · refine (isServed_resolving fun nodes =>
          Namespace.isRefusal_resolveSection nodes step.path).bind fun _ => ?_
        refine IsServed.bind ?_ fun count => .pure _
        exact IsServed.get.bind fun library => (isServed_deleteNodes _).bind fun _ =>
          (isServed_editCatalog _).bind fun _ => .pure _
      · exact (isServed_editField step.path _).bind fun _ => .pure _

theorem isServed_reset (step : Reset)
    (clear : ∀ given, step.filters = some given → given.AreClear fun e => e.isRecoverable = true) :
    IsServed (reset step) := by
  unfold reset
  split
  · refine IsServed.bind (Session.IsServed.once ?_) fun count => .pure _
    refine (Session.IsServed.of_reads (reads_resetTargets admits_recoverable step clear)).bind ?_
    intro targets
    have emptied : Session.Reads (fun e => e.isRecoverable = true)
        (targets.forM fun target => Session.replace target.key target.entry []) :=
      .forM fun target => Session.reads_replace target.key target.entry []
    refine (Session.IsServed.of_reads emptied).bind fun _ => ?_
    exact Session.IsServed.commit.bind fun _ => .pure _
  · exact (isServed_editField step.path _).bind fun _ => .pure _

theorem isServed_setSchema (step : SetSchema) : IsServed (setSchema step) := by
  unfold setSchema
  split
  · exact (isServed_editCatalog _).bind fun _ => .pure _
  · split
    · exact .throw (.inl rfl)
    · rename_i path _
      refine (isServed_resolving fun nodes => Namespace.isRefusal_resolveSection nodes path).bind ?_
      exact fun _ => (isServed_editCatalog _).bind fun _ => .pure _

/-- An operation whose filter is sound, and whose calls are all answered, fails only with a refusal
or with a fault that ends the session. -/
theorem isServed_perform (operation : Operation)
    (made : ∀ filters, operation.filters? = some filters → filters.IsMade) :
    IsServed (perform operation) := by
  have clear (given : Filters) (same : operation.filters? = some given) :
      given.AreClear fun e => e.isRecoverable = true := .inl (made given same).isSound
  cases operation with
  | buildSection step => exact isServed_buildSection step
  | buildShelf step => exact isServed_buildShelf step
  | write step => exact isServed_write step
  | checkOut step =>
      refine (Session.IsServed.once (.of_reads
        (reads_readRows admits_recoverable step clear))).bind fun _ => .pure _
  | revise step => exact isServed_revise step clear
  | remove step => exact isServed_remove step clear
  | reset step => exact isServed_reset step clear
  | setSchema step => exact isServed_setSchema step

/-! ## Failed queries -/

variable {σ : Type} {stores : Stores σ} {view : σ → MemoryStores}

/-- A query of one operation that fails is refused by validation or by resolution, and has changed
nothing: the library, which is not poisoned, and what its stores hold are as before. -/
theorem execute_single_of_error (faithful : stores.AreFaithful view) {world : σ}
    (vacant : view world = .empty) (history : List Query) (operation : Operation)
    (made : ∀ filters, operation.filters? = some filters → filters.IsMade) :
    let before := runAll stores (.empty, world) history
    let after := (execute (.single operation)).runOn stores before.1 before.2
    ∀ e, after.1 = .error e →
      ((∃ cause, e = .validation cause) ∨ ∃ cause, e = .resolution cause) ∧
        after.2.1 = before.1 ∧ after.2.1.isPoisoned = false ∧ view after.2.2 = view before.2 := by
  intro before after e failed
  have mirrors : before.1.Mirrors (view before.2) :=
    Mirrors.runAll faithful (vacant ▸ mirrors_empty) history
  have ends := attains_execute_single mirrors operation
  obtain ⟨result, library, held⟩ := Action.runOn_of_follow faithful rfl ends
  obtain ⟨settles, same⟩ := ends.runOn
  have refused : e.isRecoverable = true ∨ e.isFatal = true := by
    refine (isServed_perform operation made before.1).run (settles_perform mirrors operation) e ?_
    exact (congrArg Prod.fst same).symm.trans (result.symm.trans failed)
  rw [← result, ← library, ← held] at settles
  change after.1 = _ at result
  rw [show ((execute (.single operation)).runOn stores before.1 before.2).1 = _ from failed]
    at settles
  obtain ⟨mild, unchanged, still⟩ := settles
  refine ⟨?_, unchanged, unchanged ▸ mirrors.usable, still⟩
  rcases refused with recoverable | fatal
  · exact Result.cause_of_isRecoverable recoverable
  · rw [mild] at fatal
    cases fatal

/-- A section is not removed as a shelf would be, nor is the shelf in it. -/
theorem execute_single_of_error_section :
    let shelf : Query := .single (.buildShelf ⟨some "a", "b", none, none⟩)
    let history : List Query := [.single (.buildSection ⟨none, "a", none, none⟩), shelf]
    let operation : Operation := .remove ⟨"a", none, true, false⟩
    let before := runAll MemoryStores.answer (.empty, .empty) history
    let after := (execute (.single operation)).runOn MemoryStores.answer before.1 before.2
    Stores.AreFaithful MemoryStores.answer id ∧ operation.filters? = none ∧
      after.1 = .error (.resolution (.notAShelf "a")) ∧ after.2.1 = before.1 ∧
        after.2.1.isPoisoned = false ∧ after.2.2 = before.2 := by
  intro shelf history operation before after
  have faithful := Stores.areFaithful_memory
  have vacant : id MemoryStores.empty = MemoryStores.empty := rfl
  have failed : after.1 = .error (.resolution (.notAShelf "a")) := rfl
  have unfiltered : operation.filters? = none := rfl
  have made (filters : Filters) (given : operation.filters? = some filters) : filters.IsMade := by
    cases given
  obtain ⟨-, unchanged⟩ := execute_single_of_error faithful vacant history operation made _ failed
  exact ⟨faithful, unfiltered, failed, unchanged⟩

end Library

end ShelfLibrary
