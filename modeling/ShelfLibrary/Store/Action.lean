import ShelfLibrary.Store.Call

/-!
# Work on stores

A plan is a computation that calls the stores and goes on with their replies; it runs on any stores.
An action is a plan that also works on a state of its own and may fail.  A failure keeps what has
been done, to the state and to the stores.  What holds of a plan under every way of answering its
calls is proved by induction on the plan.
-/

namespace ShelfLibrary

/-- A computation that calls the stores. -/
inductive Plan (α : Type) where
  /-- The computation is over. -/
  | done (result : α)
  /-- A call is made, and the computation goes on with its reply. -/
  | call (call : StoreCall) (next : call.Reply → Plan α)

namespace Plan

variable {α β γ : Type}

/-- A plan followed by another that depends on its result. -/
def andThen : Plan α → (α → Plan β) → Plan β
  | .done result, next => next result
  | .call request rest, next => .call request fun reply => (rest reply).andThen next

instance : Monad Plan where
  pure := .done
  bind := andThen

/-- The result of a plan on some stores, and the stores after it. -/
def run {σ : Type} (stores : Stores σ) : Plan α → σ → α × σ
  | .done result, state => (result, state)
  | .call request next, state =>
    let (reply, state) := stores request state
    (next reply).run stores state

@[simp]
theorem pure_eq_done (result : α) : (pure result : Plan α) = .done result := rfl

@[simp]
theorem bind_eq_andThen (plan : Plan α) (next : α → Plan β) :
    plan >>= next = plan.andThen next := rfl

@[simp]
theorem done_andThen (result : α) (next : α → Plan β) :
    (Plan.done result).andThen next = next result := rfl

theorem andThen_done (plan : Plan α) : plan.andThen .done = plan := by
  induction plan with
  | done _ => rfl
  | call request rest ih => simp only [andThen, ih]

theorem andThen_assoc (plan : Plan α) (first : α → Plan β) (second : β → Plan γ) :
    (plan.andThen first).andThen second =
      plan.andThen fun result => (first result).andThen second := by
  induction plan with
  | done _ => rfl
  | call request rest ih => simp only [andThen, ih]

instance : LawfulMonad Plan :=
  LawfulMonad.mk' Plan andThen_done (fun _ _ => rfl) andThen_assoc

theorem run_andThen {σ : Type} (stores : Stores σ) (plan : Plan α) (next : α → Plan β)
    (state : σ) :
    (plan.andThen next).run stores state =
      (next (plan.run stores state).1).run stores (plan.run stores state).2 := by
  induction plan generalizing state with
  | done _ => rfl
  | call request rest ih => simp only [andThen, run, ih]

end Plan

/-- A computation that works on a state, calls the stores and may fail. -/
abbrev Action (s α : Type) := ExceptT LibraryError (StateT s Plan) α

namespace Action

variable {s t α : Type}

/-- The reply to a call, or its error as a failure. -/
def ask (request : StoreCall) : Action s request.Answer := fun state =>
  .call request fun
    | .ok answer => .done (.ok answer, state)
    | .error cause => .done (.error (.storage cause), state)

/-- A result that is already known, or a failure. -/
def ofExcept (result : Except LibraryError α) : Action s α := fun state =>
  .done (result, state)

/-- A result or a refusal by validation. -/
def validated (result : Except ValidationError α) : Action s α :=
  ofExcept (result.mapError .validation)

/-- An action on a part of the state. -/
def on (view : s → t) (put : s → t → s) (action : Action t α) : Action s α := fun state =>
  (action (view state)).andThen fun (result, part) => .done (result, put state part)

/-- What an action comes to on some stores: its result, its state and the stores after it. -/
def runOn {σ : Type} (stores : Stores σ) (action : Action s α) (state : s) (world : σ) :
    Except LibraryError α × s × σ :=
  let ((result, state), world) := (action state).run stores world
  (result, state, world)

end Action

end ShelfLibrary
