import ShelfLibrary.Filter.Evaluate
import ShelfLibrary.Proofs.Nearest

/-!
# The comparisons of filters

Filters compare a whole number with a double after rounding, and sorting by exact values.  The two
tell different orders of just those numbers that rounding makes equal.  The six comparison operators
tell one order of any two comparable values, but for a point in time and a text that denotes it,
which compare as equal and are not equal.
-/

namespace ShelfLibrary

instance : Std.LawfulEqCmp Instant.compare where
  eq_of_compare {a b} same := by
    obtain ⟨seconds, nanos⟩ := Ordering.then_eq_eq.mp same
    obtain ⟨_, _⟩ := a
    obtain ⟨_, _⟩ := b
    rw [Instant.mk.injEq]
    exact ⟨compare_eq_iff_eq.mp seconds, compare_eq_iff_eq.mp nanos⟩

namespace Double

theorem compare?_of_numbers {a b : Double} (left : a.isNaN = false) (right : b.isNaN = false) :
    a.compare? b = some (compare a.units b.units) := by
  simp [compare?, left, right]

theorem compare?_swap (a b : Double) : a.compare? b = (b.compare? a).map Ordering.swap := by
  unfold compare?
  rw [Bool.or_comm]
  split
  · rfl
  · exact congrArg some Std.OrientedCmp.eq_swap

theorem same_iff {a b : Double} : a.same b = true ↔ a.compare? b = some .eq := by
  simp [same]

end Double

namespace Operator

/-- Whether an operator holds of two values. -/
def Holds (operator : Operator) (left right : Value) : Prop :=
  operator.apply left right = .ok true

instance (operator : Operator) (left right : Value) : Decidable (operator.Holds left right) :=
  match found : operator.apply left right with
  | .ok true => isTrue found
  | .ok false | .error _ => isFalse (by simp [Holds, found])

end Operator

namespace Value

/-! ## Order and equality -/

/-- Whether one of two values is a point in time and the other a text that denotes it. -/
def AreOneMoment : Value → Value → Prop
  | .instant moment, .text s | .text s, .instant moment => Instant.ofText? s = some moment
  | _, _ => False

theorem areOneMoment_comm {a b : Value} : AreOneMoment a b ↔ AreOneMoment b a := by
  cases a <;> cases b <;> exact Iff.rfl

/-- Exchanging two values reverses their order. -/
theorem compare?_swap (a b : Value) : a.compare? b = (b.compare? a).map Ordering.swap := by
  cases a <;> cases b <;> first | rfl | exact Double.compare?_swap _ _ | skip
  case int.int | text.text | bool.bool | instant.instant =>
    exact congrArg some Std.OrientedCmp.eq_swap
  case instant.text moment s | text.instant s moment =>
    simp only [compare?, Option.map_map]
    congr 1
    funext other
    exact Std.OrientedCmp.eq_swap

/-- Values that compare as equal are equal, unless one is a text for the other. -/
theorem looseSame_iff {a b : Value} {order : Ordering} (found : a.compare? b = some order) :
    a.looseSame b = true ↔ order = .eq ∧ ¬ AreOneMoment a b := by
  match a, b with
  | .int a, .int b =>
    obtain rfl := Option.some.inj found
    simp [looseSame, AreOneMoment, Int64.toInt_inj]
  | .int _, .float _ | .float _, .int _ | .float _, .float _ =>
    rw [compare?] at found
    simp [looseSame, same, Double.same_iff, found, AreOneMoment]
  | .text _, .text _ | .bool _, .bool _ | .instant _, .instant _ =>
    obtain rfl := Option.some.inj found
    simp [looseSame, same, AreOneMoment, Std.LawfulEqCmp.compare_eq_iff_eq]
  | .instant moment, .text s | .text s, .instant moment =>
    obtain ⟨other, denoted, rfl⟩ := Option.map_eq_some_iff.mp found
    simp [looseSame, same, AreOneMoment, denoted, Std.LawfulEqCmp.compare_eq_iff_eq,
      eq_comm (a := moment)]

/-! ## Numbers -/

/-- Whether a value is a whole number, or a double that is a number. -/
def IsReal : Value → Prop
  | .int _ => True
  | .float d => d.isNaN = false
  | _ => False

/-- Whether one of two numbers is whole and the other the double that it is rounded to, without
being equal to it. -/
def AreMerged : Value → Value → Prop
  | .int n, .float d | .float d, .int n =>
    (Double.ofInt n.toInt).same d = true ∧ ((n.toInt : ℝ) : EReal) ≠ d.value
  | _, _ => False

theorem areMerged_comm {a b : Value} : AreMerged a b ↔ AreMerged b a := by
  cases a <;> cases b <;> exact Iff.rfl

theorem not_areOneMoment_of_isReal {a b : Value} (left : a.IsReal) : ¬ AreOneMoment a b := by
  cases a <;> first | exact id | cases left

theorem natAbs_toInt_lt (n : Int64) : n.toInt.natAbs < 2 ^ 64 := by
  have least := n.le_toInt
  have most := n.toInt_lt
  omega

theorem compare?_int_float (n : Int64) {d : Double} (number : d.isNaN = false) :
    (Value.int n).compare? (.float d) = some (compare (Double.ofInt n.toInt).units d.units) :=
  Double.compare?_of_numbers (Double.isNaN_ofInt (natAbs_toInt_lt n)) number

theorem sortCompare_int_float_eq_iff (n : Int64) {d : Double} (number : d.isNaN = false) :
    sortCompare (.int n) (.float d) = .eq ↔ ((n.toInt : ℝ) : EReal) = d.value := by
  rw [sortCompare, Double.compareInt_eq_compare_value n number, compare_eq_iff_eq]

/-- Short whole numbers are not merged with any double. -/
theorem not_areMerged_of_short {n : Int64} (short : n.toInt.natAbs ≤ 2 ^ 53) {d : Double}
    (number : d.isNaN = false) : ¬ AreMerged (.int n) (.float d) := by
  rintro ⟨same, different⟩
  rw [Double.same_iff, Double.compare?_of_numbers (Double.isNaN_ofInt (natAbs_toInt_lt n)) number,
    Double.units_ofInt short, ← Double.compareInt_eq n number] at same
  exact different ((sortCompare_int_float_eq_iff n number).mp (Option.some.inj same))

/-- Two numbers of which the first is whole and the second is not kept as such. -/
theorem orders_int_float (n : Int64) {d : Double} (number : d.isNaN = false) :
    ¬ AreMerged (.int n) (.float d) ∧
        (Value.int n).compare? (.float d) = some (sortCompare (.int n) (.float d)) ∨
      AreMerged (.int n) (.float d) ∧ (Value.int n).compare? (.float d) = some .eq ∧
        sortCompare (.int n) (.float d) ≠ .eq := by
  have exact_iff := sortCompare_int_float_eq_iff n number
  by_cases merged : AreMerged (.int n) (.float d)
  · exact .inr ⟨merged, Double.same_iff.mp merged.1, fun same => merged.2 (exact_iff.mp same)⟩
  · refine .inl ⟨merged, ?_⟩
    rw [compare?_int_float n number]
    rcases Double.compare_units_ofInt (natAbs_toInt_lt n) d with met | kept
    · have same : (Double.ofInt n.toInt).same d = true := by
        rw [Double.same_iff]
        exact (compare?_int_float n number).trans (congrArg some (compare_eq_iff_eq.mpr met))
      have equal : ((n.toInt : ℝ) : EReal) = d.value := by
        by_contra different
        exact merged ⟨same, different⟩
      rw [exact_iff.mpr equal, compare_eq_iff_eq.mpr met]
    · rw [kept, sortCompare, Double.compareInt_eq n number]

/-- Filters and sorting tell the same order of two numbers, or the numbers are merged. -/
theorem orders_numbers {a b : Value} (left : a.IsReal) (right : b.IsReal) :
    ¬ AreMerged a b ∧ a.compare? b = some (a.sortCompare b) ∨
      AreMerged a b ∧ a.compare? b = some .eq ∧ a.sortCompare b ≠ .eq := by
  match a, b with
  | .int a, .int b => exact .inl ⟨id, by rw [compare?, sortCompare]⟩
  | .int n, .float d => exact orders_int_float n right
  | .float d, .int n =>
    rw [areMerged_comm, compare?_swap, sortCompare_swap]
    rcases orders_int_float n left with ⟨apart, order⟩ | ⟨merged, order, different⟩
    · exact .inl ⟨apart, by rw [order]; rfl⟩
    · refine .inr ⟨merged, by rw [order]; rfl, fun same => different ?_⟩
      exact Ordering.swap_eq_eq.mp same
  | .float a, .float b =>
    refine .inl ⟨id, ?_⟩
    change a.compare? b = _
    have first : a.isNaN = false := left
    have second : b.isNaN = false := right
    rw [Double.compare?_of_numbers first second]
    simp [sortCompare, sortDoubles, first, second]

/-- Filters tell the order of two numbers that sorting tells, and find them equal where sorting
does, exactly if the numbers are not merged; whole numbers of up to 53 binary digits never are.
Merged numbers are equal for filters and not for sorting. -/
theorem compare?_eq_sortCompare_iff {a b : Value} (left : a.IsReal) (right : b.IsReal) :
    (a.compare? b = some (a.sortCompare b) ↔ ¬ AreMerged a b) ∧
    ((a.looseSame b = true ↔ a.sortCompare b = .eq) ↔ ¬ AreMerged a b) ∧
    (AreMerged a b → a.compare? b = some .eq ∧ a.looseSame b = true ∧ a.sortCompare b ≠ .eq) ∧
    (¬ AreMerged a b → (Operator.Holds .greaterThan a b ↔ a.sortCompare b = .gt)) ∧
    ∀ n : Int64, a = .int n ∨ b = .int n → n.toInt.natAbs ≤ 2 ^ 53 → ¬ AreMerged a b := by
  have moments : ¬ AreOneMoment a b := not_areOneMoment_of_isReal left
  have short : ∀ n : Int64, a = .int n ∨ b = .int n → n.toInt.natAbs ≤ 2 ^ 53 →
      ¬ AreMerged a b := by
    rintro n (rfl | rfl) small
    · cases b <;> first | exact id | exact not_areMerged_of_short small right
    · rw [areMerged_comm]
      cases a <;> first | exact id | exact not_areMerged_of_short small left
  rcases orders_numbers left right with ⟨apart, order⟩ | ⟨merged, order, different⟩
  · have equal := looseSame_iff order
    refine ⟨by simp [order, apart], by simp [equal, moments, apart],
      fun merged => absurd merged apart, fun _ => ?_, short⟩
    simp [Operator.Holds, Operator.apply, order]
  · have equal := looseSame_iff order
    refine ⟨?_, ?_, fun _ => ⟨order, equal.mpr ⟨rfl, moments⟩, different⟩,
      fun apart => absurd merged apart, short⟩
    · simp [order, merged, Ne.symm different]
    · simp [equal, moments, merged, different]

/-- The whole number after `2^53`, and the double `2^53` that it is rounded to. -/
theorem compare?_eq_sortCompare_iff_merged :
    let whole : Value := .int 9007199254740993
    let double : Value := .float ⟨0x4340000000000000⟩
    whole.IsReal ∧ double.IsReal ∧ AreMerged whole double ∧
      whole.compare? double = some .eq ∧ whole.looseSame double = true ∧
        whole.sortCompare double ≠ .eq :=
  have apart : sortCompare (.int 9007199254740993) (.float ⟨0x4340000000000000⟩) ≠ .eq := by
    decide +kernel
  have number : Double.isNaN ⟨0x4340000000000000⟩ = false := by decide
  have merged : AreMerged (.int 9007199254740993) (.float ⟨0x4340000000000000⟩) :=
    ⟨by decide +kernel, fun same => apart ((sortCompare_int_float_eq_iff _ number).mpr same)⟩
  have ⟨_, _, differ, _⟩ := compare?_eq_sortCompare_iff
    (a := .int 9007199254740993) (b := .float ⟨0x4340000000000000⟩) trivial number
  ⟨trivial, number, merged, differ merged⟩

/-- Two whole numbers that differ are both equal to one double, which sorting tells from the greater
one. -/
theorem looseSame_not_trans :
    let double : Value := .float ⟨0x4340000000000000⟩
    (Value.int 9007199254740993).compare? double = some .eq ∧
      (Value.int 9007199254740993).sortCompare double = .gt ∧
      (Value.int 9007199254740993).looseSame double = true ∧
      double.looseSame (.int 9007199254740992) = true ∧
      (Value.int 9007199254740993).looseSame (.int 9007199254740992) = false := by
  decide +kernel

end Value

namespace Operator

/-! ## Operators -/

variable {left right : Value} {order : Ordering}

theorem holds_lessThan_iff (found : left.compare? right = some order) :
    Holds .lessThan left right ↔ order = .lt := by
  simp [Holds, apply, found]

theorem holds_greaterThan_iff (found : left.compare? right = some order) :
    Holds .greaterThan left right ↔ order = .gt := by
  simp [Holds, apply, found]

theorem holds_lessThanOrEqual_iff (found : left.compare? right = some order) :
    Holds .lessThanOrEqual left right ↔ order ≠ .gt := by
  simp [Holds, apply, found, Ordering.isLE_iff_ne_gt]

theorem holds_greaterThanOrEqual_iff (found : left.compare? right = some order) :
    Holds .greaterThanOrEqual left right ↔ order ≠ .lt := by
  simp [Holds, apply, found, Ordering.isGE_iff_ne_lt]

theorem holds_equal_iff (found : left.compare? right = some order) :
    Holds .equal left right ↔ order = .eq ∧ ¬ left.AreOneMoment right := by
  rw [← Value.looseSame_iff found]
  simp [Holds, apply]

theorem holds_notEqual_iff (found : left.compare? right = some order) :
    Holds .notEqual left right ↔ ¬ (order = .eq ∧ ¬ left.AreOneMoment right) := by
  rw [← Value.looseSame_iff found]
  simp [Holds, apply]

/-- A point in time and a text that denotes it compare as equal. -/
theorem order_of_areOneMoment (moment : left.AreOneMoment right)
    (found : left.compare? right = some order) : order = .eq := by
  match left, right with
  | .instant _, .text _ | .text _, .instant _ =>
    have denoted : Instant.ofText? _ = _ := moment
    simp only [Value.compare?, denoted, Option.map_some, Option.some.injEq] at found
    exact found ▸ Std.ReflCmp.compare_self

/-- Whether the comparison operators tell one order of two values. -/
structure AreCoherent (left right : Value) : Prop where
  /-- Just one of less, equal and greater holds. -/
  one : Holds .lessThan left right ∧ ¬ Holds .equal left right ∧ ¬ Holds .greaterThan left right ∨
    ¬ Holds .lessThan left right ∧ Holds .equal left right ∧ ¬ Holds .greaterThan left right ∨
    ¬ Holds .lessThan left right ∧ ¬ Holds .equal left right ∧ Holds .greaterThan left right
  /-- What is not less is greater or equal. -/
  greaterOrEqual : Holds .greaterThanOrEqual left right ↔
    Holds .greaterThan left right ∨ Holds .equal left right
  /-- What is not greater is less or equal. -/
  lessOrEqual : Holds .lessThanOrEqual left right ↔
    Holds .lessThan left right ∨ Holds .equal left right
  /-- What is not equal is less or greater. -/
  notEqual : Holds .notEqual left right ↔
    Holds .lessThan left right ∨ Holds .greaterThan left right

/-- The comparison operators tell one order of two comparable values exactly if these are not a
point in time and a text that denotes it.  Of such a pair neither less nor equal nor greater holds,
but all others do.  Exchanging any two comparable values exchanges less and greater and keeps
equality. -/
theorem areCoherent_iff (comparable : (left.compare? right).isSome = true) :
    (AreCoherent left right ↔ ¬ left.AreOneMoment right) ∧
    (left.AreOneMoment right →
      ¬ Holds .lessThan left right ∧ ¬ Holds .equal left right ∧ ¬ Holds .greaterThan left right ∧
        Holds .greaterThanOrEqual left right ∧ Holds .lessThanOrEqual left right ∧
          Holds .notEqual left right) ∧
    (Holds .lessThan left right ↔ Holds .greaterThan right left) ∧
    (Holds .greaterThan left right ↔ Holds .lessThan right left) ∧
    (Holds .equal left right ↔ Holds .equal right left) := by
  obtain ⟨order, found⟩ := Option.isSome_iff_exists.mp comparable
  have back : right.compare? left = some order.swap := by
    rw [Value.compare?_swap, found]
    rfl
  have less := holds_lessThan_iff found
  have equal := holds_equal_iff found
  have greater := holds_greaterThan_iff found
  have lessOrEqual := holds_lessThanOrEqual_iff found
  have greaterOrEqual := holds_greaterThanOrEqual_iff found
  have notEqual := holds_notEqual_iff found
  refine ⟨⟨fun coherent moment => ?_, fun apart => ?_⟩, fun moment => ?_, ?_, ?_, ?_⟩
  · obtain rfl := order_of_areOneMoment moment found
    have wrong := coherent.greaterOrEqual
    simp [greaterOrEqual, greater, equal, moment] at wrong
  · constructor <;>
      simp only [less, equal, greater, greaterOrEqual, lessOrEqual, notEqual] <;>
      cases order <;> simp [apart]
  · obtain rfl := order_of_areOneMoment moment found
    simp [less, equal, greater, greaterOrEqual, lessOrEqual, notEqual, moment]
  · rw [less, holds_greaterThan_iff back, Ordering.swap_eq_gt]
  · rw [greater, holds_lessThan_iff back, Ordering.swap_eq_lt]
  · rw [equal, holds_equal_iff back, Ordering.swap_eq_eq, Value.areOneMoment_comm]

/-- A date, and the last second before it. -/
theorem areCoherent_iff_date :
    let date : Value := .text "2024-03-01"
    let moment : Value := .instant ⟨1709251199, 0⟩
    (moment.compare? date).isSome = true ∧ AreCoherent moment date ∧
      (Holds .lessThan moment date ↔ Holds .greaterThan date moment) :=
  have comparable :
      ((Value.instant ⟨1709251199, 0⟩).compare? (.text "2024-03-01")).isSome = true := by
    decide +kernel
  have ⟨coherent, _, exchanged, _⟩ := areCoherent_iff comparable
  have apart : Instant.ofText? "2024-03-01" ≠ some ⟨1709251199, 0⟩ := by decide +kernel
  ⟨comparable, coherent.mpr apart, exchanged⟩

/-- The first moment of a day and its date are comparable, and yet neither less nor equal nor
greater. -/
theorem not_areCoherent_date :
    let date : Value := .text "2024-03-01"
    let moment : Value := .instant ⟨1709251200, 0⟩
    moment.compare? date = some .eq ∧ ¬ Holds .lessThan moment date ∧
      ¬ Holds .equal moment date ∧ ¬ Holds .greaterThan moment date ∧
      Holds .greaterThanOrEqual moment date ∧ Holds .lessThanOrEqual moment date ∧
      Holds .notEqual moment date := by
  decide +kernel

end Operator

end ShelfLibrary
