import ShelfLibrary.Store.Action

/-!
# What plans come to

A goal is reached by a plan when every call it makes is allowed at that moment and its result and
the stores at its end satisfy the goal.  On stores that follow others as long as calls are allowed,
a plan comes to the same.
-/

namespace ShelfLibrary

variable {σ τ s t α β : Type}

namespace Plan

/-- Every call of a plan is allowed when it is made, and a goal holds at its end. -/
def Ends (stores : Stores σ) (allowed : StoreCall → σ → Prop) :
    Plan α → σ → (α → σ → Prop) → Prop
  | .done result, world, goal => goal result world
  | .call request next, world, goal =>
    allowed request world ∧
      (next (stores request world).1).Ends stores allowed (stores request world).2 goal

variable {stores : Stores σ} {allowed : StoreCall → σ → Prop}

/-- A call is allowed, and a goal holds at the end of what follows its reply. -/
theorem ends_call {request : StoreCall} {next : request.Reply → Plan α} {reply : request.Reply}
    {world : σ} {goal : α → σ → Prop} (replied : (stores request world).1 = reply)
    (permitted : allowed request world)
    (onward : (next reply).Ends stores allowed (stores request world).2 goal) :
    (Plan.call request next).Ends stores allowed world goal :=
  ⟨permitted, replied ▸ onward⟩

theorem Ends.imp {plan : Plan α} {world : σ} {goal weaker : α → σ → Prop}
    (ends : plan.Ends stores allowed world goal)
    (weaken : ∀ result world, goal result world → weaker result world) :
    plan.Ends stores allowed world weaker := by
  induction plan generalizing world with
  | done result => exact weaken result world ends
  | call request next ih => exact ⟨ends.1, ih _ ends.2⟩

theorem ends_andThen {plan : Plan α} {next : α → Plan β} {world : σ} {goal : β → σ → Prop} :
    (plan.andThen next).Ends stores allowed world goal ↔
      plan.Ends stores allowed world fun result world =>
        (next result).Ends stores allowed world goal := by
  induction plan generalizing world with
  | done result => exact Iff.rfl
  | call request rest ih => exact and_congr_right fun _ => ih _

theorem Ends.run {plan : Plan α} {world : σ} {goal : α → σ → Prop}
    (ends : plan.Ends stores allowed world goal) :
    goal (plan.run stores world).1 (plan.run stores world).2 := by
  induction plan generalizing world with
  | done result => exact ends
  | call request next ih => exact ih _ ends.2

/-- A goal that is reached is reached by what the plan comes to. -/
theorem Ends.exact {plan : Plan α} {world : σ} {goal : α → σ → Prop}
    (ends : plan.Ends stores allowed world goal) :
    plan.Ends stores allowed world fun result after =>
      goal result after ∧ (result, after) = plan.run stores world := by
  induction plan generalizing world with
  | done result => exact ⟨ends, rfl⟩
  | call request next ih => exact ⟨ends.1, ih _ ends.2⟩

end Plan

/-- Stores that answer every allowed call as others do, and stay related to them. -/
def Stores.Follow (followers : Stores τ) (stores : Stores σ) (allowed : StoreCall → σ → Prop)
    (related : τ → σ → Prop) : Prop :=
  ∀ (request : StoreCall) (low : τ) (high : σ), related low high → allowed request high →
    (followers request low).1 = (stores request high).1 ∧
      related (followers request low).2 (stores request high).2

theorem Plan.ends_free {stores : Stores σ} {plan : Plan α} {world : σ} :
    plan.Ends stores (fun _ _ => True) world fun _ _ => True := by
  induction plan generalizing world with
  | done result => trivial
  | call request next ih => exact ⟨trivial, ih _⟩

section Pairs

variable {followers : Stores τ} {stores : Stores σ} {admitted : StoreCall → τ → Prop}
  {allowed : StoreCall → σ → Prop} {related : τ → σ → Prop} {low : τ} {high : σ}

/-- Stores that answer as others do whenever both allow a call come to the same with a plan all of
whose calls both allow. -/
theorem Plan.run_of_answer
    (answer : ∀ (request : StoreCall) (low : τ) (high : σ), related low high →
      admitted request low → allowed request high →
        (followers request low).1 = (stores request high).1 ∧
          related (followers request low).2 (stores request high).2)
    {plan : Plan α} (start : related low high)
    (admits : plan.Ends followers admitted low fun _ _ => True) {goal : α → σ → Prop}
    (ends : plan.Ends stores allowed high goal) :
    (plan.run followers low).1 = (plan.run stores high).1 ∧
      related (plan.run followers low).2 (plan.run stores high).2 := by
  induction plan generalizing low high with
  | done result => exact ⟨rfl, start⟩
  | call request next ih =>
      obtain ⟨possible, onward⟩ := admits
      obtain ⟨permitted, rest⟩ := ends
      obtain ⟨reply, after⟩ := answer request low high start possible permitted
      rw [reply] at onward
      have continued := ih (stores request high).1 after onward rest
      simp only [Plan.run, reply]
      exact continued

end Pairs

namespace Action

/-- Every call of an action is allowed when it is made, and a goal holds at its end. -/
def Ends (stores : Stores σ) (allowed : StoreCall → σ → Prop) (action : Action s α) (state : s)
    (world : σ) (goal : Except LibraryError α → s → σ → Prop) : Prop :=
  Plan.Ends stores allowed (action state) world fun (result, state) world => goal result state world

variable {stores : Stores σ} {allowed : StoreCall → σ → Prop} {state : s} {world : σ}

theorem Ends.imp {action : Action s α} {goal weaker : Except LibraryError α → s → σ → Prop}
    (ends : Ends stores allowed action state world goal)
    (weaken : ∀ result state world, goal result state world → weaker result state world) :
    Ends stores allowed action state world weaker :=
  Plan.Ends.imp ends fun (result, state) world => weaken result state world

theorem Ends.runOn {action : Action s α} {goal : Except LibraryError α → s → σ → Prop}
    (ends : Ends stores allowed action state world goal) :
    goal (action.runOn stores state world).1 (action.runOn stores state world).2.1
      (action.runOn stores state world).2.2 :=
  Plan.Ends.run ends

/-- A goal that is reached is reached by what the action comes to. -/
theorem Ends.exact {action : Action s α} {goal : Except LibraryError α → s → σ → Prop}
    (ends : Ends stores allowed action state world goal) :
    Ends stores allowed action state world fun result after world' =>
      goal result after world' ∧ (result, after, world') = action.runOn stores state world := by
  refine Plan.Ends.imp (Plan.Ends.exact ends) fun (result, after) world' reached => ⟨reached.1, ?_⟩
  rw [Action.runOn, ← reached.2]

/-- What follows the end of an action: the next one, unless the first has failed. -/
def onward (next : β → Action s α) :
    Except LibraryError β × s → Plan (Except LibraryError α × s)
  | (.ok value, state) => next value state
  | (.error e, state) => .done (.error e, state)

/-- An action followed by another is a plan followed by another. -/
theorem bind_eq_andThen (action : Action s β) (next : β → Action s α) (state : s) :
    (action >>= next) state = (action state).andThen (onward next) := by
  refine congrArg (Plan.andThen (action state)) ?_
  funext ⟨result, state⟩
  cases result <;> rfl

theorem runOn_bind {action : Action s β} {next : β → Action s α} :
    (action >>= next).runOn stores state world =
      match action.runOn stores state world with
      | (.ok value, state, world) => (next value).runOn stores state world
      | (.error e, state, world) => (.error e, state, world) := by
  simp only [Action.runOn, bind_eq_andThen, Plan.run_andThen]
  rcases (action state).run stores world with ⟨⟨result, state⟩, world⟩
  cases result <;> rfl

theorem ends_free {action : Action s α} :
    Ends stores (fun _ _ => True) action state world fun _ _ _ => True :=
  Plan.ends_free

section Pairs

variable {followers : Stores τ} {related : τ → σ → Prop} {low : τ} {action : Action s α}

theorem runOn_of_answer {admitted : StoreCall → τ → Prop}
    (answer : ∀ (request : StoreCall) (low : τ) (high : σ), related low high →
      admitted request low → allowed request high →
        (followers request low).1 = (stores request high).1 ∧
          related (followers request low).2 (stores request high).2)
    (start : related low world)
    (admits : Ends followers admitted action state low fun _ _ _ => True)
    {goal : Except LibraryError α → s → σ → Prop}
    (ends : Ends stores allowed action state world goal) :
    (action.runOn followers state low).1 = (action.runOn stores state world).1 ∧
      (action.runOn followers state low).2.1 = (action.runOn stores state world).2.1 ∧
        related (action.runOn followers state low).2.2 (action.runOn stores state world).2.2 := by
  obtain ⟨same, after⟩ := Plan.run_of_answer answer start admits ends
  simp only [Action.runOn, same, true_and]
  exact after

theorem runOn_of_follow (follow : followers.Follow stores allowed related)
    (start : related low world) {goal : Except LibraryError α → s → σ → Prop}
    (ends : Ends stores allowed action state world goal) :
    (action.runOn followers state low).1 = (action.runOn stores state world).1 ∧
      (action.runOn followers state low).2.1 = (action.runOn stores state world).2.1 ∧
        related (action.runOn followers state low).2.2 (action.runOn stores state world).2.2 :=
  runOn_of_answer (fun request low high start _ =>
    follow request low high start) start ends_free ends

end Pairs

section Steps

variable {goal : Except LibraryError α → s → σ → Prop}

@[simp]
theorem ends_pure {result : α} :
    Ends stores allowed (pure result : Action s α) state world goal ↔
      goal (.ok result) state world :=
  Iff.rfl

@[simp]
theorem ends_throw {e : LibraryError} :
    Ends stores allowed (throw e : Action s α) state world goal ↔ goal (.error e) state world :=
  Iff.rfl

@[simp]
theorem ends_ofExcept {result : Except LibraryError α} :
    Ends stores allowed (ofExcept result : Action s α) state world goal ↔ goal result state world :=
  Iff.rfl

@[simp]
theorem ends_validated {result : Except ValidationError α} :
    Ends stores allowed (validated result : Action s α) state world goal ↔
      goal (result.mapError .validation) state world :=
  Iff.rfl

@[simp]
theorem ends_get {goal : Except LibraryError s → s → σ → Prop} :
    Ends stores allowed (get : Action s s) state world goal ↔ goal (.ok state) state world :=
  Iff.rfl

@[simp]
theorem ends_set {next : s} {goal : Except LibraryError PUnit → s → σ → Prop} :
    Ends stores allowed (set next : Action s PUnit) state world goal ↔ goal (.ok ⟨⟩) next world :=
  Iff.rfl

@[simp]
theorem ends_modify {change : s → s} {goal : Except LibraryError PUnit → s → σ → Prop} :
    Ends stores allowed (modify change : Action s PUnit) state world goal ↔
      goal (.ok ⟨⟩) (change state) world :=
  Iff.rfl

theorem ends_ask {request : StoreCall}
    {goal : Except LibraryError request.Answer → s → σ → Prop} :
    Ends stores allowed (ask request : Action s request.Answer) state world goal ↔
      allowed request world ∧
        goal ((stores request world).1.mapError .storage) state (stores request world).2 := by
  unfold Ends ask Plan.Ends
  refine and_congr_right fun _ => ?_
  cases (stores request world).1 <;> exact Iff.rfl

@[simp]
theorem ends_bind {action : Action s β} {next : β → Action s α} :
    Ends stores allowed (action >>= next) state world goal ↔
      Ends stores allowed action state world fun result state world =>
        match result with
        | .ok value => Ends stores allowed (next value) state world goal
        | .error e => goal (.error e) state world := by
  refine Plan.ends_andThen.trans (iff_of_eq (congrArg _ ?_))
  funext ⟨result, state⟩ world
  cases result <;> rfl

@[simp]
theorem ends_map {action : Action s β} {change : β → α} :
    Ends stores allowed (change <$> action) state world goal ↔
      Ends stores allowed action state world fun result state world =>
        goal (result.map change) state world := by
  refine Plan.ends_andThen.trans (iff_of_eq (congrArg _ ?_))
  funext ⟨result, state⟩ world
  cases result <;> rfl

@[simp]
theorem ends_tryCatch {action : Action s α} {handler : LibraryError → Action s α} :
    Ends stores allowed (tryCatch action handler) state world goal ↔
      Ends stores allowed action state world fun result state world =>
        match result with
        | .ok value => goal (.ok value) state world
        | .error e => Ends stores allowed (handler e) state world goal := by
  refine Plan.ends_andThen.trans (iff_of_eq (congrArg _ ?_))
  funext ⟨result, state⟩ world
  cases result <;> rfl

@[simp]
theorem ends_on {view : t → s} {put : t → s → t} {action : Action s α} {whole : t}
    {goal : Except LibraryError α → t → σ → Prop} :
    Ends stores allowed (on view put action) whole world goal ↔
      Ends stores allowed action (view whole) world fun result part world =>
        goal result (put whole part) world :=
  Plan.ends_andThen

end Steps

end Action

end ShelfLibrary
