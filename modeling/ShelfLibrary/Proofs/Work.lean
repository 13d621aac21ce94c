import Mathlib.Logic.Basic

/-!
# What work on a state comes to

Work on files, on a journal or on stores may fail and keeps what it has done.  What it comes to is
found step by step: what follows a step begins where the step has ended.
-/

namespace ShelfLibrary.Work

variable {ε σ α β : Type}

/-- A goal holds at the end of work. -/
def Ends (work : ExceptT ε (StateM σ) α) (state : σ) (goal : Except ε α → σ → Prop) : Prop :=
  goal (work.run state).1 (work.run state).2

variable {state : σ}

theorem Ends.imp {work : ExceptT ε (StateM σ) α} {goal weaker : Except ε α → σ → Prop}
    (ends : Ends work state goal)
    (weaken : ∀ result state, goal result state → weaker result state) :
    Ends work state weaker :=
  weaken _ _ ends

/-- What follows work begins where the work has ended. -/
theorem run_bind (work : ExceptT ε (StateM σ) β) (next : β → ExceptT ε (StateM σ) α) (state : σ) :
    (work >>= next).run state =
      match work.run state with
      | (.ok value, state) => (next value).run state
      | (.error e, state) => (.error e, state) := by
  change (match (work.run state).1 with
    | .ok value => (next value).run
    | .error e => pure (.error e)) (work.run state).2 = _
  rcases work.run state with ⟨result, after⟩
  cases result <;> rfl

section Steps

variable {goal : Except ε α → σ → Prop}

@[simp]
theorem ends_pure {result : α} :
    Ends (pure result : ExceptT ε (StateM σ) α) state goal ↔ goal (.ok result) state :=
  Iff.rfl

@[simp]
theorem ends_throw {e : ε} :
    Ends (throw e : ExceptT ε (StateM σ) α) state goal ↔ goal (.error e) state :=
  Iff.rfl

@[simp]
theorem ends_get {goal : Except ε σ → σ → Prop} :
    Ends (get : ExceptT ε (StateM σ) σ) state goal ↔ goal (.ok state) state :=
  Iff.rfl

@[simp]
theorem ends_set {next : σ} {goal : Except ε PUnit → σ → Prop} :
    Ends (set next : ExceptT ε (StateM σ) PUnit) state goal ↔ goal (.ok ⟨⟩) next :=
  Iff.rfl

@[simp]
theorem ends_modify {change : σ → σ} {goal : Except ε PUnit → σ → Prop} :
    Ends (modify change : ExceptT ε (StateM σ) PUnit) state goal ↔ goal (.ok ⟨⟩) (change state) :=
  Iff.rfl

@[simp]
theorem ends_bind {work : ExceptT ε (StateM σ) β} {next : β → ExceptT ε (StateM σ) α} :
    Ends (work >>= next) state goal ↔
      Ends work state fun result state =>
        match result with
        | .ok value => Ends (next value) state goal
        | .error e => goal (.error e) state := by
  unfold Ends
  rw [run_bind]
  rcases work.run state with ⟨result, after⟩
  cases result <;> exact Iff.rfl

@[simp]
theorem ends_map {work : ExceptT ε (StateM σ) β} {change : β → α} :
    Ends (change <$> work) state goal ↔
      Ends work state fun result state => goal (result.map change) state := by
  have step : (change <$> work).run state =
      ((work.run state).1.map change, (work.run state).2) := by
    change (match (work.run state).1 with
      | .ok value => pure (.ok (change value))
      | .error e => pure (.error e) : StateM σ (Except ε α)) (work.run state).2 = _
    rcases work.run state with ⟨result, after⟩
    cases result <;> rfl
  unfold Ends
  rw [step]

@[simp]
theorem ends_tryCatch {work : ExceptT ε (StateM σ) α} {handler : ε → ExceptT ε (StateM σ) α} :
    Ends (tryCatch work handler) state goal ↔
      Ends work state fun result state =>
        match result with
        | .ok value => goal (.ok value) state
        | .error e => Ends (handler e) state goal := by
  have step : (tryCatch work handler).run state =
      match work.run state with
      | (.ok value, state) => (.ok value, state)
      | (.error e, state) => (handler e).run state := by
    change (match (work.run state).1 with
      | .ok value => pure (.ok value)
      | .error e => (handler e).run : StateM σ (Except ε α)) (work.run state).2 = _
    rcases work.run state with ⟨result, after⟩
    cases result <;> rfl
  unfold Ends
  rw [step]
  rcases work.run state with ⟨result, after⟩
  cases result <;> exact Iff.rfl

end Steps

end ShelfLibrary.Work
