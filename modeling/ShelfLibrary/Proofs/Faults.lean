import ShelfLibrary.Proofs.Failures
import ShelfLibrary.Store.Fault

/-!
# Work over stores that may refuse

Stores may refuse a call and stay as they are.  What holds wherever a plan ends, whichever of its
calls are refused, is proved like what holds where none is: by rules for each step.  Work that only
reads leaves everything alone even so, and work that gives up at the first refusal comes to what it
comes to elsewhere or fails.
-/

namespace ShelfLibrary

variable {s t α β : Type}

/-! ## Refusals -/

/-- A goal holds wherever a plan over stores in memory ends, whichever of its calls are refused;
only the number of nodes is always told. -/
def Plan.Withstands : Plan α → MemoryStores → (α → MemoryStores → Prop) → Prop
  | .done result, held, goal => goal result held
  | .call request next, held, goal =>
    (next (MemoryStores.answer request held).1).Withstands
      (MemoryStores.answer request held).2 goal ∧
      (request ≠ .countNodes → ∀ cause, (next (.error cause)).Withstands held goal)

/-- Stores that answer as stores in memory do, or refuse a call and stay as they are; the number of
nodes is always told.  A relation says what they hold. -/
def Stores.AreFallible {σ : Type} (stores : Stores σ) (holds : σ → MemoryStores → Prop) : Prop :=
  ∀ (request : StoreCall) (world : σ) (held : MemoryStores), holds world held →
    ((stores request world).1 = (MemoryStores.answer request held).1 ∧
        holds (stores request world).2 (MemoryStores.answer request held).2) ∨
      (request ≠ .countNodes ∧ (∃ cause, (stores request world).1 = .error cause) ∧
        holds (stores request world).2 held)

/-- What faulty stores over stores in memory hold, as long as every number of nodes is told, and
told right. -/
structure FaultyStores.Holds (world : FaultyStores MemoryStores) (held : MemoryStores) : Prop where
  /-- The stores behind hold it. -/
  stores_eq : world.stores = held
  /-- The number of nodes is always told. -/
  answered : ∀ calls, world.plan calls .countNodes = none
  /-- It is told right. -/
  level : world.drift = 0

/-- Without a drift every reply is passed on as it is. -/
theorem FaultyStores.adjust_zero (request : StoreCall) (reply : request.Reply) :
    adjust 0 request reply = reply := by
  cases request with
  | countNodes => cases reply <;> simp [adjust, Except.map, shift]
  | _ => rfl

theorem FaultyStores.areFallible :
    (FaultyStores.answer MemoryStores.answer).AreFallible FaultyStores.Holds := by
  rintro request world _ ⟨rfl, answered, level⟩
  have passed (reply : request.Reply) : adjust world.drift request reply = reply :=
    level ▸ adjust_zero request reply
  cases fault : world.plan world.calls request with
  | none =>
      refine .inl ⟨?_, ?_⟩
      · simp only [answer, fault, passed]
      · simp only [answer, fault]
        exact ⟨rfl, answered, level⟩
  | some cause =>
      refine .inr ⟨?_, ⟨cause, by simp only [answer, fault]⟩, ?_⟩
      · rintro rfl
        simp [answered] at fault
      · simp only [answer, fault]
        exact ⟨rfl, answered, level⟩

namespace Plan

theorem Withstands.imp {plan : Plan α} {held : MemoryStores} {goal weaker : α → MemoryStores → Prop}
    (withstands : plan.Withstands held goal)
    (weaken : ∀ result held, goal result held → weaker result held) :
    plan.Withstands held weaker := by
  induction plan generalizing held with
  | done result => exact weaken result held withstands
  | call request next ih =>
      exact ⟨ih _ withstands.1, fun fallible cause => ih _ (withstands.2 fallible cause)⟩

theorem withstands_andThen {plan : Plan α} {next : α → Plan β} {held : MemoryStores}
    {goal : β → MemoryStores → Prop} :
    (plan.andThen next).Withstands held goal ↔
      plan.Withstands held fun result held => (next result).Withstands held goal := by
  induction plan generalizing held with
  | done result => exact Iff.rfl
  | call request rest ih =>
      exact and_congr (ih _) (forall_congr' fun _ => forall_congr' fun cause => ih (.error cause))

/-- What a plan withstands holds at its end on any stores that may refuse. -/
theorem Withstands.run {σ : Type} {stores : Stores σ} {holds : σ → MemoryStores → Prop}
    (fallible : stores.AreFallible holds) {plan : Plan α} {held : MemoryStores}
    {goal : α → MemoryStores → Prop} (withstands : plan.Withstands held goal) {world : σ}
    (start : holds world held) :
    ∃ now, holds (plan.run stores world).2 now ∧ goal (plan.run stores world).1 now := by
  induction plan generalizing held world with
  | done result => exact ⟨held, start, withstands⟩
  | call request next ih =>
      simp only [Plan.run]
      rcases fallible request world held start
        with ⟨same, after⟩ | ⟨mayFail, ⟨cause, refused⟩, after⟩
      · rw [same]
        exact ih _ withstands.1 after
      · rw [refused]
        exact ih _ (withstands.2 mayFail cause) after

end Plan

/-! ## Rules -/

namespace Action

/-- A goal holds wherever an action over stores in memory ends, whichever of its calls are
refused. -/
def Withstands (action : Action s α) (state : s) (held : MemoryStores)
    (goal : Except LibraryError α → s → MemoryStores → Prop) : Prop :=
  (action state).Withstands held fun (result, state) held => goal result state held

variable {state : s} {held : MemoryStores}

theorem Withstands.imp {action : Action s α}
    {goal weaker : Except LibraryError α → s → MemoryStores → Prop}
    (withstands : action.Withstands state held goal)
    (weaken : ∀ result state held, goal result state held → weaker result state held) :
    action.Withstands state held weaker :=
  Plan.Withstands.imp withstands fun (result, state) held => weaken result state held

theorem Withstands.runOn {σ : Type} {stores : Stores σ} {holds : σ → MemoryStores → Prop}
    (fallible : stores.AreFallible holds) {action : Action s α}
    {goal : Except LibraryError α → s → MemoryStores → Prop}
    (withstands : action.Withstands state held goal) {world : σ} (start : holds world held) :
    ∃ now, holds (action.runOn stores state world).2.2 now ∧
      goal (action.runOn stores state world).1 (action.runOn stores state world).2.1 now :=
  Plan.Withstands.run fallible withstands start

section Steps

variable {goal : Except LibraryError α → s → MemoryStores → Prop}

@[simp]
theorem withstands_pure {result : α} :
    Withstands (pure result : Action s α) state held goal ↔ goal (.ok result) state held :=
  Iff.rfl

@[simp]
theorem withstands_throw {e : LibraryError} :
    Withstands (throw e : Action s α) state held goal ↔ goal (.error e) state held :=
  Iff.rfl

@[simp]
theorem withstands_get {goal : Except LibraryError s → s → MemoryStores → Prop} :
    Withstands (get : Action s s) state held goal ↔ goal (.ok state) state held :=
  Iff.rfl

@[simp]
theorem withstands_modify {change : s → s}
    {goal : Except LibraryError PUnit → s → MemoryStores → Prop} :
    Withstands (modify change : Action s PUnit) state held goal ↔
      goal (.ok ⟨⟩) (change state) held :=
  Iff.rfl

/-- A call is answered, or it is refused and nothing is done. -/
theorem withstands_ask {request : StoreCall}
    {goal : Except LibraryError request.Answer → s → MemoryStores → Prop} :
    Withstands (ask request : Action s request.Answer) state held goal ↔
      goal ((MemoryStores.answer request held).1.mapError .storage) state
          (MemoryStores.answer request held).2 ∧
        (request ≠ .countNodes → ∀ cause, goal (.error (.storage cause)) state held) := by
  unfold Withstands ask Plan.Withstands
  refine and_congr_left fun _ => ?_
  cases (MemoryStores.answer request held).1 <;> exact Iff.rfl

@[simp]
theorem withstands_bind {action : Action s β} {next : β → Action s α} :
    Withstands (action >>= next) state held goal ↔
      Withstands action state held fun result state held =>
        match result with
        | .ok value => Withstands (next value) state held goal
        | .error e => goal (.error e) state held := by
  refine Plan.withstands_andThen.trans (iff_of_eq (congrArg _ ?_))
  funext ⟨result, state⟩ held
  cases result <;> rfl

@[simp]
theorem withstands_map {action : Action s β} {change : β → α} :
    Withstands (change <$> action) state held goal ↔
      Withstands action state held fun result state held =>
        goal (result.map change) state held := by
  refine Plan.withstands_andThen.trans (iff_of_eq (congrArg _ ?_))
  funext ⟨result, state⟩ held
  cases result <;> rfl

@[simp]
theorem withstands_tryCatch {action : Action s α} {handler : LibraryError → Action s α} :
    Withstands (tryCatch action handler) state held goal ↔
      Withstands action state held fun result state held =>
        match result with
        | .ok value => goal (.ok value) state held
        | .error e => Withstands (handler e) state held goal := by
  refine Plan.withstands_andThen.trans (iff_of_eq (congrArg _ ?_))
  funext ⟨result, state⟩ held
  cases result <;> rfl

@[simp]
theorem withstands_on {view : t → s} {put : t → s → t} {action : Action s α} {whole : t}
    {goal : Except LibraryError α → t → MemoryStores → Prop} :
    Withstands (on view put action) whole held goal ↔
      Withstands action (view whole) held fun result part held =>
        goal result (put whole part) held :=
  Plan.withstands_andThen

end Steps

end Action

/-! ## Work that gives up -/

/-- Only reading leaves everything alone even where it is refused, and finds what it finds
elsewhere. -/
theorem Plan.Reads.withstands {refusal : LibraryError → Prop} {state : s} {held : MemoryStores}
    {plan : Plan (Except LibraryError α × s)} (reads : plan.Reads refusal state)
    {goal : Except LibraryError α × s → MemoryStores → Prop}
    (ends : plan.Ends MemoryStores.answer StoreCall.IsProper held goal) :
    plan.Withstands held fun ended after =>
      ended.2 = state ∧ after = held ∧ ∀ value, ended.1 = .ok value → goal ended held := by
  induction plan with
  | done ended => exact ⟨reads.1, rfl, fun _ _ => ends⟩
  | call request next ih =>
      cases request with
      | loadShelf location =>
          refine ⟨ih _ (reads.2 _) ends.2, fun _ cause => ?_⟩
          rw [reads.1 cause]
          exact ⟨rfl, rfl, by rintro _ ⟨⟩⟩
      | _ => exact reads.elim

theorem Action.Reads.withstands {refusal : LibraryError → Prop} {action : Action s α}
    (reads : action.Reads refusal) {state : s} {held : MemoryStores}
    {goal : Except LibraryError α → s → MemoryStores → Prop}
    (attains : action.Attains state held goal) :
    action.Withstands state held fun result after now =>
      after = state ∧ now = held ∧ ∀ value, result = .ok value → goal result state held := by
  refine Plan.Withstands.imp (Plan.Reads.withstands (reads state) attains) ?_
  rintro ⟨result, after⟩ now ⟨rfl, rfl, reached⟩
  exact ⟨rfl, rfl, reached⟩

/-- A plan ends with the error of the first call that is refused. -/
def Plan.GivesUp : Plan (Except LibraryError α × s) → Prop
  | .done _ => True
  | .call _ next =>
    (∀ cause, ∃ state, next (.error cause) = .done (.error (.storage cause), state)) ∧
      ∀ answer, (next (.ok answer)).GivesUp

/-- Work that gives up comes to what it comes to elsewhere, or fails. -/
theorem Plan.GivesUp.withstands {held : MemoryStores} {plan : Plan (Except LibraryError α × s)}
    (givesUp : plan.GivesUp) {goal : Except LibraryError α × s → MemoryStores → Prop}
    (ends : plan.Ends MemoryStores.answer StoreCall.IsProper held goal) :
    plan.Withstands held fun ended after =>
      ∀ value, ended.1 = .ok value → goal ended after := by
  induction plan generalizing held with
  | done ended => exact fun _ _ => ends
  | call request next ih =>
      obtain ⟨proper, onward⟩ := ends
      obtain ⟨reply, answered⟩ := MemoryStores.exists_answer proper
      have later : (next (MemoryStores.answer request held).1).GivesUp := by
        rw [answered]
        exact givesUp.2 reply
      refine ⟨ih _ later onward, fun _ cause => ?_⟩
      obtain ⟨state, ended⟩ := givesUp.1 cause
      rw [ended]
      rintro value ⟨⟩

namespace Action

/-- An action gives up at the first refusal, from every state. -/
def GivesUp (action : Action s α) : Prop :=
  ∀ state, (action state).GivesUp

namespace GivesUp

theorem pure (value : α) : GivesUp (pure value : Action s α) :=
  fun _ => trivial

theorem throw (e : LibraryError) : GivesUp (throw e : Action s α) :=
  fun _ => trivial

theorem get : GivesUp (get : Action s s) :=
  fun _ => trivial

theorem modify (change : s → s) : GivesUp (modify change : Action s PUnit) :=
  fun _ => trivial

theorem set (state : s) : GivesUp (set state : Action s PUnit) :=
  fun _ => trivial

theorem ask (request : StoreCall) : GivesUp (ask request : Action s request.Answer) :=
  fun state => ⟨fun _ => ⟨state, rfl⟩, fun _ => trivial⟩

theorem bind {first : Action s α} {next : α → Action s β} (start : GivesUp first)
    (onward : ∀ value, GivesUp (next value)) : GivesUp (first >>= next) := by
  intro state
  have plans (plan : Plan (Except LibraryError α × s)) (givesUp : plan.GivesUp) :
      (plan.andThen (Action.onward next)).GivesUp := by
    induction plan with
    | done ended =>
        obtain ⟨result, after⟩ := ended
        cases result with
        | ok value => exact onward value after
        | error e => trivial
    | call request rest ih =>
        refine ⟨fun cause => ?_, fun answer => ih _ (givesUp.2 answer)⟩
        obtain ⟨after, ended⟩ := givesUp.1 cause
        exact ⟨after, by simp only [ended, Plan.done_andThen, Action.onward]⟩
  rw [bind_eq_andThen]
  exact plans _ (start state)

theorem on {view : t → s} {put : t → s → t} {action : Action s α} (givesUp : GivesUp action) :
    GivesUp (on view put action) := by
  intro whole
  have plans (plan : Plan (Except LibraryError α × s)) (givesUp : plan.GivesUp) :
      (plan.andThen fun ended => .done (ended.1, put whole ended.2)).GivesUp := by
    induction plan with
    | done ended => trivial
    | call request rest ih =>
        refine ⟨fun cause => ?_, fun answer => ih _ (givesUp.2 answer)⟩
        obtain ⟨after, ended⟩ := givesUp.1 cause
        exact ⟨put whole after, by simp only [ended, Plan.done_andThen]⟩
  exact plans _ (givesUp (view whole))

theorem forM {items : List α} {step : α → Action s PUnit} (steps : ∀ item, GivesUp (step item)) :
    GivesUp (items.forM step) := by
  induction items with
  | nil => exact pure PUnit.unit
  | cons item rest ih => exact bind (steps item) fun _ => ih

end GivesUp

end Action

end ShelfLibrary
