import ShelfLibrary.Error

/-!
# Results that may be errors

A computation that may fail in several steps succeeds when all of them do.  A result is mild if it
is no fault that would end the session.
-/

namespace ShelfLibrary.Result

variable {ε δ α β : Type}

theorem bind_eq_ok {first : Except ε α} {next : α → Except ε β} {value : β} :
    (first >>= next) = .ok value ↔ ∃ middle, first = .ok middle ∧ next middle = .ok value := by
  cases first <;> simp [bind, Except.bind]

/-- A result that has a value of some kind. -/
theorem exists_of_any {result : Except ε α} {good : α → Prop} [DecidablePred good]
    (any : result.toOption.any fun value => good value) :
    ∃ value, result = .ok value ∧ good value := by
  cases result with
  | error e => cases any
  | ok value => exact ⟨value, rfl, by simpa [Except.toOption] using any⟩

/-- What is asserted of the value of a result, if there is one. -/
def Yields (result : Except ε α) (goal : α → Prop) : Prop :=
  ∀ value, result = .ok value → goal value

theorem yields_bind {first : Except ε α} {next : α → Except ε β} {middle : α → Prop}
    {goal : β → Prop} (start : Yields first middle)
    (rest : ∀ value, middle value → Yields (next value) goal) : Yields (first >>= next) goal := by
  intro value done
  obtain ⟨between, first, last⟩ := bind_eq_ok.mp done
  exact rest between (start between first) value last

theorem yields_bind_any {first : Except ε α} {next : α → Except ε β} {goal : β → Prop}
    (rest : ∀ value, Yields (next value) goal) : Yields (first >>= next) goal :=
  yields_bind (fun _ _ => trivial) fun value _ => rest value

theorem yields_throw (e : ε) (goal : α → Prop) : Yields (.error e) goal := by
  rintro value ⟨⟩

theorem yields_throw_bind (e : ε) (next : α → Except ε β) (goal : β → Prop) :
    Yields ((throw e : Except ε α) >>= next) goal := by
  rintro value ⟨⟩

@[simp]
theorem mapError_ok {value : α} {rename : ε → δ} :
    (.ok value : Except ε α).mapError rename = .ok value :=
  rfl

@[simp]
theorem mapError_error {e : ε} {rename : ε → δ} :
    (.error e : Except ε α).mapError rename = .error (rename e) :=
  rfl

theorem mapError_eq_ok {result : Except ε α} {rename : ε → δ} {value : α} :
    result.mapError rename = .ok value ↔ result = .ok value := by
  cases result <;> simp

theorem map_eq_ok {result : Except ε α} {change : α → β} {value : β} :
    result.map change = .ok value ↔ ∃ before, result = .ok before ∧ change before = value := by
  cases result <;> simp [Except.map]

/-- Each member of a list for which all results are values has its own among them. -/
theorem exists_mem_of_mapM {items : List α} {values : List β} {f : α → Except ε β}
    (made : items.mapM f = .ok values) {item : α} (member : item ∈ items) :
    ∃ value ∈ values, f item = .ok value := by
  induction items generalizing values with
  | nil => cases member
  | cons first rest ih =>
      rw [List.mapM_cons] at made
      obtain ⟨value, done, made⟩ := bind_eq_ok.mp made
      obtain ⟨others, later, same⟩ := bind_eq_ok.mp made
      obtain rfl := Except.ok.inj same
      rcases List.mem_cons.mp member with rfl | among
      · exact ⟨value, List.mem_cons_self, done⟩
      · obtain ⟨value, listed, done⟩ := ih later among
        exact ⟨value, List.mem_cons_of_mem _ listed, done⟩

theorem exists_mapM_iff {items : List α} {f : α → Except ε β} :
    (∃ values, items.mapM f = .ok values) ↔ ∀ item ∈ items, ∃ value, f item = .ok value := by
  refine ⟨fun ⟨_, made⟩ item member => ?_, fun each => ?_⟩
  · obtain ⟨value, -, done⟩ := exists_mem_of_mapM made member
    exact ⟨value, done⟩
  · induction items with
    | nil => exact ⟨[], rfl⟩
    | cons first rest ih =>
        obtain ⟨⟨value, done⟩, others⟩ := List.forall_mem_cons.mp each
        obtain ⟨values, later⟩ := ih others
        refine ⟨value :: values, ?_⟩
        rw [List.mapM_cons, done, later]
        rfl

/-- Whether a result, if it is an error, is a refusal by validation or by resolution. -/
def IsRefusal (result : Except LibraryError α) : Prop :=
  ∀ e, result = .error e → e.isRecoverable = true

theorem cause_of_isRecoverable {e : LibraryError} (recoverable : e.isRecoverable = true) :
    (∃ cause, e = .validation cause) ∨ ∃ cause, e = .resolution cause := by
  cases e <;> simp_all [LibraryError.isRecoverable]

@[simp]
theorem isRefusal_ok (value : α) : IsRefusal (.ok value) := by
  rintro e ⟨⟩

@[simp]
theorem isRefusal_error {e : LibraryError} :
    IsRefusal (.error e : Except LibraryError α) ↔ e.isRecoverable = true := by
  simp [IsRefusal]

theorem isRefusal_validation (result : Except ValidationError α) :
    IsRefusal (result.mapError LibraryError.validation) := by
  cases result <;> simp [LibraryError.isRecoverable]

theorem isRefusal_resolution (result : Except ResolutionError α) :
    IsRefusal (result.mapError LibraryError.resolution) := by
  cases result <;> simp [LibraryError.isRecoverable]

theorem IsRefusal.bind {first : Except LibraryError α} {next : α → Except LibraryError β}
    (start : IsRefusal first) (onward : ∀ value, IsRefusal (next value)) :
    IsRefusal (first >>= next) := by
  cases first with
  | ok value => exact onward value
  | error e => exact fun _ failed => start _ (by simpa [Bind.bind, Except.bind] using failed)

/-- Whether a result, if it is an error, leaves the library usable. -/
def IsMild (result : Except LibraryError α) : Prop :=
  ∀ e, result = .error e → e.isFatal = false

theorem isFatal_of_isRecoverable {e : LibraryError} (recoverable : e.isRecoverable = true) :
    e.isFatal = false := by
  cases e <;> simp_all [LibraryError.isRecoverable, LibraryError.isFatal]

theorem IsRefusal.isMild {result : Except LibraryError α} (refusal : IsRefusal result) :
    IsMild result :=
  fun e failed => isFatal_of_isRecoverable (refusal e failed)

@[simp]
theorem isMild_ok (value : α) : IsMild (.ok value) := by
  rintro e ⟨⟩

@[simp]
theorem isMild_error {e : LibraryError} :
    IsMild (.error e : Except LibraryError α) ↔ e.isFatal = false := by
  simp [IsMild]

theorem isMild_validation (result : Except ValidationError α) :
    IsMild (result.mapError LibraryError.validation) :=
  (isRefusal_validation result).isMild

end ShelfLibrary.Result
