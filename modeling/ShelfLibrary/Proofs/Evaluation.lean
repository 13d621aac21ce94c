import ShelfLibrary.Proofs.Filter

/-!
# What evaluation comes to

The eager reading of an expression evaluates every operand and folds the results from the left.
Evaluation agrees with it wherever it has a result, and what evaluation fails with is the fault of a
resolver or of a pattern that a resolver has found.
-/

namespace ShelfLibrary

/-! ## The eager reading -/

namespace FilterItem

section Eager

variable (find : String → Except LibraryError Value)

mutual

/-- The truth value of an operand when everything in it is evaluated. -/
def value : FilterItem → Except LibraryError Bool
  | .condition leaf => leaf.evaluate find
  | .group items => valueOfItems items
  | .connective _ => .error (.internal "connective in operand position")

/-- The truth value of an expression: all its operands are evaluated, and then they are folded from
the left. -/
def valueOfItems : List FilterItem → Except LibraryError Bool
  | [] => .ok true
  | first :: rest => do
    let start ← value first
    let operands ← valuesAfter rest
    return operands.foldl (fun result operand => operand.1.apply result operand.2) start

/-- The truth values of the operands after the first, with the connectives before them. -/
def valuesAfter : List FilterItem → Except LibraryError (List (Connective × Bool))
  | [] => .ok []
  | .connective joint :: operand :: rest => do
    let right ← value operand
    let others ← valuesAfter rest
    return (joint, right) :: others
  | _ => .error (.internal "operands are not separated by a connective")

end

end Eager

mutual

/-- The conditions in an element. -/
def leaves : FilterItem → List Condition
  | .condition leaf => [leaf]
  | .group items => leavesOfItems items
  | .connective _ => []

/-- The conditions in a list of elements. -/
def leavesOfItems : List FilterItem → List Condition
  | [] => []
  | item :: rest => leaves item ++ leavesOfItems rest

end

mutual

theorem paths_subset_of_mem_leaves {leaf : Condition} (item : FilterItem)
    (member : leaf ∈ leaves item) : leaf.paths ⊆ paths item := by
  cases item with
  | condition other =>
      obtain rfl : leaf = other := by simpa [leaves] using member
      exact List.Subset.refl _
  | group items => exact paths_subset_of_mem_leavesOfItems items member
  | connective joint => simp [leaves] at member

theorem paths_subset_of_mem_leavesOfItems {leaf : Condition} (items : List FilterItem)
    (member : leaf ∈ leavesOfItems items) : leaf.paths ⊆ pathsOfItems items := by
  cases items with
  | nil => simp [leavesOfItems] at member
  | cons item rest =>
      rw [leavesOfItems, List.mem_append] at member
      rw [pathsOfItems]
      rcases member with first | later
      · exact List.subset_append_of_subset_left _ (paths_subset_of_mem_leaves item first)
      · exact List.subset_append_of_subset_right _ (paths_subset_of_mem_leavesOfItems rest later)

end

mutual

theorem validate_of_mem_leaves {leaf : Condition} (item : FilterItem) (sound : item.IsSound)
    (member : leaf ∈ leaves item) : leaf.validate = .ok () := by
  cases item with
  | condition other =>
      obtain rfl : leaf = other := by simpa [leaves] using member
      exact sound
  | group items => exact validate_of_mem_leavesOfItems items sound.2 member
  | connective joint => simp [leaves] at member

theorem validate_of_mem_leavesOfItems {leaf : Condition} (items : List FilterItem)
    (sound : AreSound items) (member : leaf ∈ leavesOfItems items) : leaf.validate = .ok () := by
  cases items with
  | nil => simp [leavesOfItems] at member
  | cons item rest =>
      rw [leavesOfItems, List.mem_append] at member
      rcases member with first | later
      · exact validate_of_mem_leaves item sound.1 first
      · exact validate_of_mem_leavesOfItems rest sound.2 later

end

end FilterItem

/-! ## What holds of every step -/

/-- What holds of a computation that only gives a result, and of computations one after another when
it holds of each. -/
structure Composes {m : Type → Type} [Monad m] (holds : (α : Type) → m α → Prop) : Prop where
  /-- It holds of a result. -/
  pure {α : Type} (value : α) : holds α (pure value)
  /-- It holds of computations one after another. -/
  bind {α β : Type} {first : m α} {next : α → m β} (start : holds α first)
    (onward : ∀ value, holds β (next value)) : holds β (first >>= next)

section Steps

variable {m : Type → Type} [Monad m] [MonadExceptOf LibraryError m]
  {holds : (α : Type) → m α → Prop} {resolve : String → m Value}

/-- What holds of a resolver and of the refusal of a pattern holds of conditions. -/
theorem Condition.holds_evaluate (composes : Composes holds)
    (resolves : ∀ path, holds Value (resolve path))
    (refuses : ∀ cause, holds Bool (throw (.validation cause))) (condition : Condition) :
    holds Bool (condition.evaluate resolve) := by
  have operand (value : Value) (isPath : Bool) :
      holds Value (resolveOperand resolve value isPath) := by
    unfold resolveOperand
    split
    · split
      · exact resolves _
      · exact composes.pure _
    · exact composes.pure _
  refine composes.bind (operand _ _) fun left => composes.bind (operand _ _) fun right => ?_
  split
  · exact composes.pure _
  · exact refuses _

namespace FilterItem

mutual

/-- What holds of the conditions in an operand holds of the operand if it is sound or faults may be
met. -/
theorem holds_evaluate (composes : Composes holds) (item : FilterItem)
    (conditions : ∀ leaf ∈ leaves item, holds Bool (leaf.evaluate resolve))
    (sound : item.isConnective = false ∧ item.IsSound ∨
      ∀ reason, holds Bool (throw (.internal reason))) : holds Bool (item.evaluate resolve) := by
  cases item with
  | condition leaf => exact conditions leaf List.mem_cons_self
  | group items => exact holds_evaluateItems composes items conditions (sound.imp_left And.right)
  | connective joint =>
      rcases sound with ⟨isOperand, -⟩ | met
      · cases isOperand
      · exact met _

/-- What holds of the conditions in an expression holds of the expression. -/
theorem holds_evaluateItems (composes : Composes holds) (items : List FilterItem)
    (conditions : ∀ leaf ∈ leavesOfItems items, holds Bool (leaf.evaluate resolve))
    (sound : IsExpression items ∧ AreSound items ∨
      ∀ reason, holds Bool (throw (.internal reason))) :
    holds Bool (evaluateItems resolve items) := by
  cases items with
  | nil => exact composes.pure _
  | cons first rest =>
      rw [leavesOfItems] at conditions
      have start : holds Bool (first.evaluate resolve) := by
        refine holds_evaluate composes first ?_ (sound.imp_left ?_)
        · exact fun leaf member => conditions leaf (List.mem_append_left _ member)
        · rintro ⟨⟨isOperand, -⟩, firstSound, -⟩
          exact ⟨isOperand, firstSound⟩
      refine composes.bind start fun result => ?_
      refine holds_evaluateRest composes result rest ?_ (sound.imp_left ?_)
      · exact fun leaf member => conditions leaf (List.mem_append_right _ member)
      · rintro ⟨⟨-, onward⟩, -, restSound⟩
        exact ⟨onward, restSound⟩

/-- What holds of the conditions after an operand holds of what is made of them. -/
theorem holds_evaluateRest (composes : Composes holds) (result : Bool) (items : List FilterItem)
    (conditions : ∀ leaf ∈ leavesOfItems items, holds Bool (leaf.evaluate resolve))
    (sound : Continues items ∧ AreSound items ∨ ∀ reason, holds Bool (throw (.internal reason))) :
    holds Bool (evaluateRest resolve result items) := by
  match items with
  | [] => exact composes.pure _
  | .connective joint :: operand :: rest =>
      simp only [leavesOfItems, leaves, List.nil_append] at conditions
      have later (result : Bool) : holds Bool (evaluateRest resolve result rest) := by
        refine holds_evaluateRest composes result rest ?_ (sound.imp_left ?_)
        · exact fun leaf member => conditions leaf (List.mem_append_right _ member)
        · rintro ⟨continues, -, -, restSound⟩
          cases continues with
          | step _ isOperand onward => exact ⟨onward, restSound⟩
      unfold evaluateRest
      split
      · exact later result
      · refine composes.bind (holds_evaluate composes operand ?_ (sound.imp_left ?_)) fun _ =>
          later _
        · exact fun leaf member => conditions leaf (List.mem_append_left _ member)
        · rintro ⟨continues, -, operandSound, -⟩
          cases continues with
          | step _ isOperand onward => exact ⟨isOperand, operandSound⟩
  | [.connective _] =>
      rcases sound with ⟨⟨⟩, -⟩ | met
      exact met _
  | .condition _ :: _ =>
      rcases sound with ⟨⟨⟩, -⟩ | met
      exact met _
  | .group _ :: _ =>
      rcases sound with ⟨⟨⟩, -⟩ | met
      exact met _

end

end FilterItem

end Steps

/-! ## Resolvers with a state -/

section Resolvers

variable {σ : Type} {resolve : String → ExceptT LibraryError (StateM σ) Value} {state : σ}

/-- A resolver finds at some paths what a function says, whenever it is asked. -/
def Answers (resolve : String → ExceptT LibraryError (StateM σ) Value)
    (find : String → Except LibraryError Value) (paths : List String) : Prop :=
  ∀ path ∈ paths, ∀ state, ((resolve path).run state).1 = find path

/-- A condition is evaluated operand by operand. -/
theorem Condition.ends_evaluate_iff {condition : Condition}
    {goal : Except LibraryError Bool → σ → Prop} :
    Work.Ends (condition.evaluate resolve) state goal ↔
      Work.Ends (resolveOperand resolve condition.left condition.leftIsPath) state
        fun result state => match result with
          | .error e => goal (.error e) state
          | .ok left =>
            Work.Ends (resolveOperand resolve condition.right condition.rightIsPath) state
              fun result state => match result with
                | .error e => goal (.error e) state
                | .ok right =>
                  goal ((condition.operator.apply left right).mapError .validation) state := by
  rw [Condition.evaluate, Work.ends_bind]
  refine iff_of_eq (congrArg _ ?_)
  funext result state
  cases result with
  | error e => rfl
  | ok left =>
      refine (Work.ends_bind.trans (iff_of_eq (congrArg _ ?_))).eq
      funext result state
      cases result with
      | error e => rfl
      | ok right =>
          dsimp only
          cases condition.operator.apply left right <;> rfl

/-! ### Agreement -/

section Agreement

variable {find : String → Except LibraryError Value}

theorem ends_resolveOperand {operand found : Value} {isPath : Bool}
    (answers : Answers resolve find (if isPath then operand.asText?.toList else []))
    (read : resolveOperand find operand isPath = .ok found) :
    Work.Ends (resolveOperand resolve operand isPath) state fun result _ => result = .ok found := by
  unfold resolveOperand at read ⊢
  cases isPath with
  | false => exact read
  | true =>
      cases path : operand.asText? with
      | none =>
          simp only [path, if_true] at read ⊢
          exact read
      | some path' =>
          simp only [path, if_true] at read answers ⊢
          exact (answers path' (by simp) state).trans read

theorem Condition.ends_evaluate {condition : Condition} {holds : Bool}
    (answers : Answers resolve find condition.paths) (read : condition.evaluate find = .ok holds) :
    Work.Ends (condition.evaluate resolve) state fun result _ => result = .ok holds := by
  obtain ⟨left, first, later⟩ := Result.bind_eq_ok.mp read
  obtain ⟨right, second, applied⟩ := Result.bind_eq_ok.mp later
  refine ends_evaluate_iff.mpr ((ends_resolveOperand (fun path member =>
    answers path (List.mem_append_left _ member)) first).imp fun result state same => ?_)
  subst same
  refine (ends_resolveOperand (fun path member =>
    answers path (List.mem_append_right _ member)) second).imp fun result state same => ?_
  subst same
  cases done : condition.operator.apply left right with
  | ok outcome =>
      simp only [done] at applied
      simp only [done]
      exact applied
  | error e =>
      simp only [done] at applied
      cases applied

namespace FilterItem

theorem apply_of_isSettled {joint : Connective} {result : Bool} (settled : isSettled joint result)
    (right : Bool) : joint.apply result right = result := by
  cases joint <;> simp_all [isSettled, Connective.apply]

mutual

theorem ends_evaluate (item : FilterItem) {holds : Bool}
    (answers : Answers resolve find (paths item)) (read : value find item = .ok holds) {state : σ} :
    Work.Ends (item.evaluate resolve) state fun result _ => result = .ok holds := by
  cases item with
  | condition leaf => exact Condition.ends_evaluate answers read
  | group items => exact ends_evaluateItems items answers read
  | connective joint => cases read

theorem ends_evaluateItems (items : List FilterItem) {holds : Bool}
    (answers : Answers resolve find (pathsOfItems items))
    (read : valueOfItems find items = .ok holds) {state : σ} :
    Work.Ends (evaluateItems resolve items) state fun result _ => result = .ok holds := by
  cases items with
  | nil => exact read
  | cons first rest =>
      rw [pathsOfItems] at answers
      unfold valueOfItems at read
      obtain ⟨start, begun, later⟩ := Result.bind_eq_ok.mp read
      obtain ⟨operands, others, folded⟩ := Result.bind_eq_ok.mp later
      unfold evaluateItems
      refine Work.ends_bind.mpr ((ends_evaluate first (fun path member =>
        answers path (List.mem_append_left _ member)) begun).imp fun result state same => ?_)
      subst same
      refine (ends_evaluateRest rest start (fun path member =>
        answers path (List.mem_append_right _ member)) others).imp fun result state same => ?_
      exact same.trans folded

/-- What follows an operand is folded onto it; what is left out would not have changed it. -/
theorem ends_evaluateRest (items : List FilterItem) (start : Bool)
    {operands : List (Connective × Bool)} (answers : Answers resolve find (pathsOfItems items))
    (read : valuesAfter find items = .ok operands) {state : σ} :
    Work.Ends (evaluateRest resolve start items) state fun result _ => result =
      .ok (operands.foldl (fun result operand => operand.1.apply result operand.2) start) := by
  match items with
  | [] =>
      obtain rfl : [] = operands := Except.ok.inj read
      rfl
  | .connective joint :: operand :: rest =>
      simp only [pathsOfItems, paths, List.nil_append] at answers
      unfold valuesAfter at read
      obtain ⟨right, first, later⟩ := Result.bind_eq_ok.mp read
      obtain ⟨others, onward, same⟩ := Result.bind_eq_ok.mp later
      obtain rfl : (joint, right) :: others = operands := Except.ok.inj same
      have rest (start : Bool) {state : σ} : Work.Ends (evaluateRest resolve start rest) state
          fun result _ => result =
            .ok (others.foldl (fun result operand => operand.1.apply result operand.2) start) :=
        ends_evaluateRest rest start
          (fun path member => answers path (List.mem_append_right _ member)) onward
      unfold evaluateRest
      rw [List.foldl_cons]
      split
      · rename_i settled
        rw [apply_of_isSettled settled]
        exact rest start
      · refine Work.ends_bind.mpr ((ends_evaluate operand (fun path member =>
          answers path (List.mem_append_left _ member)) first).imp fun result state same => ?_)
        subst same
        exact rest _
  | [.connective _] => cases read
  | .condition _ :: _ => cases read
  | .group _ :: _ => cases read

end

end FilterItem

end Agreement

/-! ### Failures -/

/-- An operator refuses its operands only if it matches a text and the other one is no pattern. -/
theorem Operator.apply_eq_error {operator : Operator} {left right : Value} {e : ValidationError}
    (refused : operator.apply left right = .error e) :
    operator = .matchesPattern ∧ ∃ source : String, right = .text source ∧
      Pattern.ofText? source = Option.none ∧ e = .invalidField "right" (.badPattern source) := by
  cases operator with
  | matchesPattern =>
      simp only [Operator.apply] at refused
      split at refused
      · split at refused
        · cases refused
        · rename_i malformed
          exact ⟨rfl, _, rfl, malformed, (Except.error.inj refused).symm⟩
      · cases refused
  | _ => cases refused

/-- What evaluation of a condition may fail with: the failure of the resolver at one of its paths,
or the refusal of what the resolver has found where the pattern of a match should be. -/
inductive Condition.FailsWith (resolve : String → ExceptT LibraryError (StateM σ) Value)
    (condition : Condition) (e : LibraryError) : Prop where
  /-- The resolver fails at a path. -/
  | resolver (path : String) (state : σ) (read : path ∈ condition.paths)
      (failed : ((resolve path).run state).1 = .error e) : FailsWith resolve condition e
  /-- The resolver finds a text that is no pattern. -/
  | pattern (path source : String) (state : σ) (isMatch : condition.operator = .matchesPattern)
      (isPath : condition.rightIsPath = true) (right : condition.right = .text path)
      (found : ((resolve path).run state).1 = .ok (.text source))
      (malformed : Pattern.ofText? source = none)
      (refusal : e = .validation (.invalidField "right" (.badPattern source))) :
      FailsWith resolve condition e

theorem Value.asText?_eq_some {value : Value} {s : String} (found : value.asText? = some s) :
    value = .text s := by
  cases value <;> simp_all [Value.asText?]

/-- What is resolved as an operand is the operand, or is found where it leads. -/
theorem ends_resolveOperand_any (operand : Value) (isPath : Bool) (state : σ) :
    Work.Ends (resolveOperand resolve operand isPath) state fun result _ =>
      match result with
      | .ok found => (isPath = false ∧ found = operand) ∨ (isPath = true ∧ found = .null) ∨
          ∃ path, isPath = true ∧ operand = .text path ∧
            ∃ state, ((resolve path).run state).1 = .ok found
      | .error e => ∃ path, isPath = true ∧ operand = .text path ∧
          ∃ state, ((resolve path).run state).1 = .error e := by
  unfold resolveOperand
  cases isPath with
  | false => exact .inl ⟨rfl, rfl⟩
  | true =>
      rw [if_pos rfl]
      split
      · rename_i path text
        have given := Value.asText?_eq_some text
        cases read : ((resolve path).run state).1 with
        | ok found =>
            rw [Work.Ends, read]
            exact .inr (.inr ⟨path, rfl, given, state, read⟩)
        | error e =>
            rw [Work.Ends, read]
            exact ⟨path, rfl, given, state, read⟩
      · exact .inr (.inl ⟨rfl, rfl⟩)

theorem Condition.mem_paths {condition : Condition} {path : String}
    (given : condition.leftIsPath = true ∧ condition.left = .text path ∨
      condition.rightIsPath = true ∧ condition.right = .text path) : path ∈ condition.paths := by
  rcases given with ⟨isPath, same⟩ | ⟨isPath, same⟩ <;> simp [paths, isPath, same, Value.asText?]

/-- The pattern of a match in a valid condition is one if it is given literally. -/
theorem Condition.isPattern_of_validate {condition : Condition} {source : String}
    (valid : condition.validate = .ok ()) (isMatch : condition.operator = .matchesPattern)
    (literal : condition.rightIsPath = false) (right : condition.right = .text source) :
    (Pattern.ofText? source).isSome = true := by
  rcases condition with ⟨left, operator, pattern, leftIsPath, rightIsPath⟩
  subst isMatch literal right
  cases leftIsPath with
  | false => cases valid
  | true =>
      obtain ⟨_, -, later⟩ := Result.bind_eq_ok.mp valid
      have checked : checkPattern (.text source) = .ok () := later
      cases known : (Pattern.ofText? source).isSome with
      | true => rfl
      | false => simp [checkPattern, Value.asText?, known] at checked

/-- A valid condition fails with nothing else. -/
theorem Condition.ends_failsWith {condition : Condition} (valid : condition.validate = .ok ())
    (state : σ) :
    Work.Ends (condition.evaluate resolve) state fun result _ =>
      ∀ e, result = .error e → condition.FailsWith resolve e := by
  refine ends_evaluate_iff.mpr
    ((ends_resolveOperand_any _ _ state).imp fun result state first => ?_)
  cases result with
  | error e =>
      obtain ⟨path, isPath, left, asked, failed⟩ := first
      rintro _ ⟨rfl⟩
      exact .resolver path asked (mem_paths (.inl ⟨isPath, left⟩)) failed
  | ok left =>
      refine (ends_resolveOperand_any _ _ state).imp fun result state second => ?_
      cases result with
      | error e =>
          obtain ⟨path, isPath, right, asked, failed⟩ := second
          rintro _ ⟨rfl⟩
          exact .resolver path asked (mem_paths (.inr ⟨isPath, right⟩)) failed
      | ok right =>
          cases applied : condition.operator.apply left right with
          | ok outcome =>
              simp only [applied]
              rintro _ ⟨⟩
          | error cause =>
              simp only [applied]
              rintro _ ⟨rfl⟩
              obtain ⟨isMatch, source, rfl, malformed, rfl⟩ := Operator.apply_eq_error applied
              rcases second with ⟨literal, same⟩ | ⟨-, ⟨⟩⟩ | ⟨path, isPath, given, asked, found⟩
              · have sound := isPattern_of_validate valid isMatch literal same.symm
                simp [malformed] at sound
              · exact .pattern path source asked isMatch isPath given found malformed rfl

/-- What evaluation of a sound expression fails with is a failure of one of its conditions. -/
theorem FilterItem.ends_failsWith {items : List FilterItem} (expression : IsExpression items)
    (sound : AreSound items) (state : σ) :
    Work.Ends (evaluateItems resolve items) state fun result _ =>
      ∀ e, result = .error e → ∃ leaf ∈ leavesOfItems items, leaf.FailsWith resolve e := by
  let holds (α : Type) (work : ExceptT LibraryError (StateM σ) α) : Prop :=
    ∀ state, Work.Ends work state fun result _ =>
      ∀ e, result = .error e → ∃ leaf ∈ leavesOfItems items, leaf.FailsWith resolve e
  have composes : Composes holds := by
    constructor
    · rintro α value state e ⟨⟩
    · intro α β first next start onward state
      refine Work.ends_bind.mpr ((start state).imp fun result state failed => ?_)
      cases result with
      | ok value => exact onward value state
      | error e =>
          rintro _ ⟨rfl⟩
          exact failed e rfl
  refine holds_evaluateItems composes items (fun leaf member state => ?_)
    (.inl ⟨expression, sound⟩) state
  refine (Condition.ends_failsWith (validate_of_mem_leavesOfItems items sound member) state).imp ?_
  exact fun result state failed e same => ⟨leaf, member, failed e same⟩

namespace FilterItem

/-- Evaluation is the reading from left to right.  Where that has a result with every operand
evaluated, evaluation gives the same; what evaluation fails with is the failure of the resolver at a
path of the filter or the refusal of a text that the resolver has found in place of a pattern; and
it meets no fault of its own. -/
theorem evaluateItems_eq_valueOfItems {items : List FilterItem} (body : AreBody items)
    (resolve : String → ExceptT LibraryError (StateM σ) Value) (state : σ) :
    let result := ((evaluateItems resolve items).run state).1
    (∀ find holds, Answers resolve find (pathsOfItems items) →
      valueOfItems find items = .ok holds → result = .ok holds) ∧
    (∀ e, result = .error e →
      (∃ path ∈ pathsOfItems items, ∃ state, ((resolve path).run state).1 = .error e) ∨
        ∃ leaf ∈ leavesOfItems items, ∃ path source state,
          leaf.operator = .matchesPattern ∧ leaf.rightIsPath = true ∧ leaf.right = .text path ∧
            ((resolve path).run state).1 = .ok (.text source) ∧ Pattern.ofText? source = none ∧
            e = .validation (.invalidField "right" (.badPattern source))) ∧
    ∀ reason, result = .error (.internal reason) →
      ∃ path ∈ pathsOfItems items, ∃ state,
        ((resolve path).run state).1 = .error (.internal reason) := by
  intro result
  obtain ⟨expression, sound⟩ := body.isSound
  have failed : ∀ e, result = .error e → ∃ leaf ∈ leavesOfItems items, leaf.FailsWith resolve e :=
    ends_failsWith expression sound state
  refine ⟨fun find holds answers read => ends_evaluateItems items answers read, ?_, ?_⟩
  · intro e same
    obtain ⟨leaf, member, cause⟩ := failed e same
    cases cause with
    | resolver path asked read failed =>
        exact .inl ⟨path, paths_subset_of_mem_leavesOfItems items member read, asked, failed⟩
    | pattern path source asked isMatch isPath right found malformed refusal =>
        exact .inr ⟨leaf, member, path, source, asked, isMatch, isPath, right, found, malformed,
          refusal⟩
  · intro reason same
    obtain ⟨leaf, member, cause⟩ := failed _ same
    cases cause with
    | resolver path asked read failed =>
        exact ⟨path, paths_subset_of_mem_leavesOfItems items member read, asked, failed⟩
    | pattern path source asked isMatch isPath right found malformed refusal => cases refusal

/-- A disjunction is followed by a conjunction with a group that does not hold, and the resolver
counts how often it is asked. -/
theorem evaluateItems_eq_valueOfItems_counted :
    let find (path : String) : Except LibraryError Value := .ok (.bool (path = "a"))
    let resolve (path : String) : ExceptT LibraryError (StateM Nat) Value := do
      modify (· + 1)
      return .bool (path = "a")
    let isTrue (path : String) : FilterItem :=
      .condition ⟨.text path, .equal, .bool true, true, false⟩
    let items := [isTrue "a", .connective .or, isTrue "a", .connective .and, .group [isTrue "b"]]
    AreBody items ∧ Answers resolve find (pathsOfItems items) ∧
      valueOfItems find items = .ok false ∧
      ((evaluateItems resolve items).run 0).1 = .ok false := by
  intro find resolve isTrue items
  have made (path : String) (valid : Path.isValid path = true) : (isTrue path).IsMade := by
    have known : Operator.parse Operator.equal.token = .ok .equal := by
      rw [Operator.parse, Operator.ofToken?_token]
    have composed : Condition.make (.text path) "==" (.bool true) true false =
        .ok ⟨.text path, .equal, .bool true, true, false⟩ := by
      rw [Condition.make, show "==" = Operator.equal.token from rfl, known]
      simp only [Condition.validate, Condition.checkPath, Value.asText?, valid]
      rfl
    exact .condition (.make composed)
  have first := made "a" (by decide)
  have second : ∀ part ∈ [isTrue "b"], part.IsMade := by simpa using made "b" (by decide)
  have inner : (FilterItem.group [isTrue "b"]).IsMade := .group second rfl
  have parts : ∀ part ∈ items, part.IsMade := by
    simp [items, first, inner, FilterItem.IsMade.connective]
  have body : AreBody items := .inr (.group parts rfl)
  have answers : Answers resolve find (pathsOfItems items) := fun path _ state => rfl
  have eager : valueOfItems find items = .ok false := by
    rfl
  exact ⟨body, answers, eager,
    (evaluateItems_eq_valueOfItems body resolve 0).1 find false answers eager⟩

end FilterItem

end Resolvers

end ShelfLibrary
