import ShelfLibrary.Proofs.Digits
import ShelfLibrary.Proofs.Rounding

/-!
# Decimals that read back

The shortest decimal of a positive pattern rounds to the pattern: of seventeen digits one is near
enough, and fewer digits are taken only if they are.
-/

namespace ShelfLibrary

namespace Double

/-! ## Powers of ten -/

theorem unitsInOne_pos : 0 < unitsInOne := by
  unfold unitsInOne
  positivity

theorem log2_unitsInOne : unitsInOne.log2 = 1074 := by
  decide +kernel

/-- A decimal number in units. -/
def decimalUnits (digits : Nat) (exponent : Int) : ℚ :=
  digits * 10 ^ exponent * unitsInOne

theorem scale10_pos (numerator : Nat) {denominator : Nat} (positive : 0 < denominator)
    (power : Int) :
    0 < (scale10 numerator denominator power).2 := by
  unfold scale10
  split
  · exact positive
  · positivity

theorem scale10_ratio (numerator denominator : Nat) (power : Int) :
    ((scale10 numerator denominator power).1 : ℚ) / (scale10 numerator denominator power).2 =
      numerator / denominator * 10 ^ power := by
  unfold scale10
  split
  · rename_i positive
    obtain ⟨n, rfl⟩ := Int.eq_ofNat_of_zero_le positive
    simp only [Int.toNat_natCast, Nat.cast_mul, Nat.cast_pow, Nat.cast_ofNat,
      zpow_natCast]
    ring
  · rename_i negative
    obtain ⟨n, hn⟩ := Int.eq_ofNat_of_zero_le (show 0 ≤ -power by omega)
    obtain rfl : power = -(n : Int) := by simpa using congrArg Neg.neg hn
    simp only [neg_neg, Int.toNat_natCast, Nat.cast_mul, Nat.cast_pow, Nat.cast_ofNat, zpow_neg,
      zpow_natCast]
    rw [div_mul_eq_div_div, div_eq_mul_inv _ ((10 : ℚ) ^ n)]

/-- A quotient is no less than a power of ten when it is no less than one after scaling. -/
theorem scale10_le_iff {numerator denominator : Nat} (positive : 0 < denominator) (place : Int) :
    (scale10 numerator denominator (-place)).2 ≤ (scale10 numerator denominator (-place)).1 ↔
      (10 : ℚ) ^ place ≤ numerator / denominator := by
  have scaled : (0 : ℚ) < (scale10 numerator denominator (-place)).2 := by
    exact_mod_cast scale10_pos numerator positive (-place)
  have power : (0 : ℚ) < 10 ^ place := by positivity
  rw [← Nat.cast_le (α := ℚ), ← one_le_div scaled, scale10_ratio, zpow_neg, ← div_eq_mul_inv,
    one_le_div power]

theorem le_scale10_iff {numerator denominator : Nat} (positive : 0 < denominator) (place : Int) :
    (scale10 numerator denominator (-place)).1 ≤ (scale10 numerator denominator (-place)).2 ↔
      (numerator : ℚ) / denominator ≤ 10 ^ place := by
  have scaled : (0 : ℚ) < (scale10 numerator denominator (-place)).2 := by
    exact_mod_cast scale10_pos numerator positive (-place)
  have power : (0 : ℚ) < 10 ^ place := by positivity
  rw [← Nat.cast_le (α := ℚ), ← div_le_one scaled, scale10_ratio, zpow_neg, ← div_eq_mul_inv,
    div_le_one power]

/-! ## The place of the decimal point -/

/-- The estimate from the binary logarithm is no more than two places too high and three too low,
for every logarithm that a finite double has. -/
theorem decimalPlace_estimate :
    (List.range 2098).all (fun logarithm =>
      let estimate := ((logarithm : Int) - 1074) * 30103 / 100000
      let least := scale10 (2 ^ logarithm) unitsInOne (-(estimate - 2))
      let most := scale10 (2 ^ (logarithm + 1)) unitsInOne (-(estimate + 3))
      least.2 ≤ least.1 && most.1 ≤ most.2) = true := by
  decide +kernel

theorem estimate_bounds {logarithm : Nat} (small : logarithm < 2098) {estimate : Int}
    (estimated : ((logarithm : Int) - 1074) * 30103 / 100000 = estimate) :
    (10 : ℚ) ^ (estimate - 2) ≤ (2 ^ logarithm : Nat) / unitsInOne ∧
      ((2 ^ (logarithm + 1) : Nat) / unitsInOne : ℚ) ≤ 10 ^ (estimate + 3) := by
  have checked := List.all_eq_true.mp decimalPlace_estimate logarithm (List.mem_range.mpr small)
  simp only [estimated, Bool.and_eq_true, decide_eq_true_eq] at checked
  have positive : 0 < unitsInOne := unitsInOne_pos
  exact ⟨(scale10_le_iff positive _).mp checked.1, (le_scale10_iff positive _).mp checked.2⟩

/-- The search around an estimate ends at the last place that is reached. -/
theorem find?_place (reaches : Int → Bool) {estimate : Int} (low : reaches (estimate - 2) = true)
    (high : reaches (estimate + 3) = false) :
    let place := ([estimate + 2, estimate + 1, estimate, estimate - 1].find? reaches).getD
      (estimate - 2)
    reaches place = true ∧ reaches (place + 1) = false := by
  have next : estimate - 2 + 1 = estimate - 1 := by omega
  cases second : reaches (estimate + 2) <;> cases first : reaches (estimate + 1) <;>
    cases here : reaches estimate <;> cases before : reaches (estimate - 1) <;>
    simp_all [add_assoc]

/-- A positive value lies below its decimal place and no more than one place below. -/
theorem decimalPlace_bounds {value : Nat} (positive : 0 < value) (small : value.log2 < 2098) :
    (10 : ℚ) ^ (decimalPlace value unitsInOne - 1) ≤ value / unitsInOne ∧
      (value / unitsInOne : ℚ) < 10 ^ decimalPlace value unitsInOne := by
  have someUnit : 0 < unitsInOne := unitsInOne_pos
  unfold decimalPlace
  rw [log2_unitsInOne]
  generalize estimated : ((value.log2 : Int) - (1074 : Nat)) * 30103 / 100000 = estimate
  obtain ⟨least, most⟩ := estimate_bounds small estimated
  have reached : ((2 ^ value.log2 : Nat) : ℚ) ≤ value := by
    exact_mod_cast Nat.log2_self_le positive.ne'
  have passed : (value : ℚ) < (2 ^ (value.log2 + 1) : Nat) := by
    exact_mod_cast Nat.lt_log2_self
  generalize unitsInOne = unit at *
  have scale : (0 : ℚ) < unit := by exact_mod_cast someUnit
  have found := @find?_place
    (fun place => decide ((scale10 value unit (-place)).2 ≤ (scale10 value unit (-place)).1))
    estimate
    (by
      rw [decide_eq_true_eq, scale10_le_iff someUnit]
      exact least.trans (by gcongr))
    (by
      rw [decide_eq_false_iff_not, scale10_le_iff someUnit, not_le]
      exact lt_of_lt_of_le (by gcongr) most)
  simp only [decide_eq_true_eq, decide_eq_false_iff_not] at found
  rw [scale10_le_iff someUnit, scale10_le_iff someUnit, not_le] at found
  simp only [add_sub_cancel_right]
  exact found

/-! ## Decimals of a width -/

theorem readsBack_iff {pattern digits : Nat} {exponent : Int} :
    readsBack pattern exponent digits = true ↔
      digits ≠ 0 ∧ Rounds pattern (decimalUnits digits exponent) := by
  have value : decimalUnits digits exponent =
      (digits * unitsInOne : Nat) / (1 : Nat) * 10 ^ exponent := by
    rw [decimalUnits, Nat.cast_mul, Nat.cast_one, div_one, mul_right_comm]
  unfold readsBack
  simp only [Bool.and_eq_true, bne_iff_ne, ne_eq]
  rw [roundsTo_iff (scale10_pos _ (by norm_num) exponent), scale10_ratio, value]

/-- The nearer of the two whole numbers around a quotient is off by no more than a half. -/
theorem nearerFirst_spec (tie : Tie) (numerator : Nat) {denominator : Nat}
    (positive : 0 < denominator) :
    ∃ nearer other, nearerFirst tie numerator denominator = [nearer, other] ∧
      2 * |(nearer : ℚ) - numerator / denominator| ≤ 1 ∧
      ∀ n ∈ [nearer, other], n = numerator / denominator ∨ n = numerator / denominator + 1 := by
  have scale : (0 : ℚ) < denominator := by exact_mod_cast positive
  have whole := Nat.div_add_mod numerator denominator
  have remainder := Nat.mod_lt numerator positive
  unfold nearerFirst
  simp only
  generalize numerator / denominator = q at whole ⊢
  generalize numerator % denominator = r at whole remainder ⊢
  have ratio : (numerator : ℚ) / denominator = q + r / denominator := by
    rw [← whole]
    push_cast
    field_simp
  have small : (r : ℚ) / denominator < 1 := by
    rw [div_lt_one scale]
    exact_mod_cast remainder
  have least : (0 : ℚ) ≤ r / denominator := by positivity
  have below (half : 2 * r ≤ denominator) : 2 * |(q : ℚ) - numerator / denominator| ≤ 1 := by
    have : 2 * ((r : ℚ) / denominator) ≤ 1 := by
      rw [← mul_div_assoc, div_le_one scale]
      exact_mod_cast half
    rw [ratio, abs_of_nonpos (by linarith)]
    linarith
  have above (half : denominator ≤ 2 * r) :
      2 * |((q + 1 : Nat) : ℚ) - numerator / denominator| ≤ 1 := by
    have : 1 ≤ 2 * ((r : ℚ) / denominator) := by
      rw [← mul_div_assoc, one_le_div scale]
      exact_mod_cast half
    rw [ratio, Nat.cast_succ, abs_of_nonneg (by linarith)]
    linarith
  have lowerFirst (half : 2 * r ≤ denominator) : ∃ nearer other, [q, q + 1] = [nearer, other] ∧
      2 * |(nearer : ℚ) - numerator / denominator| ≤ 1 ∧
      ∀ n ∈ [nearer, other], n = q ∨ n = q + 1 := ⟨q, q + 1, rfl, below half, by simp⟩
  have upperFirst (half : denominator ≤ 2 * r) : ∃ nearer other, [q + 1, q] = [nearer, other] ∧
      2 * |(nearer : ℚ) - numerator / denominator| ≤ 1 ∧
      ∀ n ∈ [nearer, other], n = q ∨ n = q + 1 := ⟨q + 1, q, rfl, above half, by simp⟩
  split
  · exact lowerFirst (by omega)
  · split
    · exact upperFirst (by omega)
    · cases tie with
      | up => exact upperFirst (by omega)
      | toEven =>
          simp only
          split
          · exact lowerFirst (by omega)
          · exact upperFirst (by omega)

theorem decimalOfWidth?_eq (tie : Tie) (pattern : Nat) (place : Int) (width : Nat) :
    decimalOfWidth? tie pattern place width =
      (nearerFirst tie (scale10 (unitsOfPattern pattern) unitsInOne (width - place)).1
        (scale10 (unitsOfPattern pattern) unitsInOne (width - place)).2).find?
          (readsBack pattern (place - width)) := rfl

/-- A value between two neighbouring powers of ten has so many digits. -/
theorem decimalOfWidth?_spec {tie : Tie} {pattern width digits : Nat} {place : Int}
    (positive : 0 < width)
    (least : (10 : ℚ) ^ (place - 1) ≤ unitsOfPattern pattern / unitsInOne)
    (most : (unitsOfPattern pattern / unitsInOne : ℚ) < 10 ^ place)
    (found : decimalOfWidth? tie pattern place width = some digits) :
    10 ^ (width - 1) ≤ digits ∧ digits ≤ 10 ^ width ∧
      Rounds pattern (decimalUnits digits (place - width)) := by
  have ratio := scale10_ratio (unitsOfPattern pattern) unitsInOne (width - place)
  have scaled := scale10_pos (unitsOfPattern pattern) unitsInOne_pos (width - place)
  rw [decimalOfWidth?_eq] at found
  generalize (scale10 (unitsOfPattern pattern) unitsInOne (width - place)).1 = numerator at *
  generalize (scale10 (unitsOfPattern pattern) unitsInOne (width - place)).2 = denominator at *
  have scale : (0 : ℚ) < denominator := by exact_mod_cast scaled
  obtain ⟨nearer, other, order, -, around⟩ := nearerFirst_spec tie numerator scaled
  rw [order] at found
  have power : (10 : ℚ) ^ place * 10 ^ ((width : Int) - place) = (10 ^ width : Nat) := by
    rw [← zpow_add₀ (by norm_num)]
    norm_num
  have powerBelow : (10 : ℚ) ^ (place - 1) * 10 ^ ((width : Int) - place) =
      (10 ^ (width - 1) : Nat) := by
    rw [← zpow_add₀ (by norm_num), Nat.cast_pow, ← zpow_natCast, Nat.cast_sub (by omega)]
    congr 1
    push_cast
    ring
  have lower : 10 ^ (width - 1) ≤ numerator / denominator := by
    rw [Nat.le_div_iff_mul_le scaled]
    have : ((10 ^ (width - 1) : Nat) : ℚ) ≤ numerator / denominator := by
      rw [ratio, ← powerBelow]
      gcongr
    rw [le_div_iff₀ scale] at this
    exact_mod_cast this
  have upper : numerator / denominator < 10 ^ width := by
    rw [Nat.div_lt_iff_lt_mul scaled]
    have : (numerator : ℚ) / denominator < (10 ^ width : Nat) := by
      rw [ratio, ← power]
      gcongr
    rw [div_lt_iff₀ scale] at this
    exact_mod_cast this
  have reads := readsBack_iff.mp (List.find?_some found)
  rcases around digits (List.mem_of_find?_eq_some found) with rfl | rfl
  · exact ⟨lower, upper.le, reads.2⟩
  · exact ⟨by omega, upper, reads.2⟩

/-- Seventeen digits are enough. -/
theorem decimalOfWidth?_seventeen (tie : Tie) {pattern : Nat} {place : Int} (positive : 0 < pattern)
    (least : (10 : ℚ) ^ (place - 1) ≤ unitsOfPattern pattern / unitsInOne) :
    (decimalOfWidth? tie pattern place 17).isSome := by
  have ratio := scale10_ratio (unitsOfPattern pattern) unitsInOne ((17 : Nat) - place)
  have scaled := scale10_pos (unitsOfPattern pattern) unitsInOne_pos ((17 : Nat) - place)
  rw [decimalOfWidth?_eq]
  generalize (scale10 (unitsOfPattern pattern) unitsInOne ((17 : Nat) - place)).1 = numerator at *
  generalize (scale10 (unitsOfPattern pattern) unitsInOne ((17 : Nat) - place)).2 = denominator at *
  obtain ⟨nearer, other, order, near, -⟩ := nearerFirst_spec tie numerator scaled
  rw [order, List.find?_isSome]
  refine ⟨nearer, by simp, readsBack_iff.mpr ?_⟩
  obtain ⟨below, above⟩ := unitsOfPattern_le_gap positive
  have unitPositive : (0 : ℚ) < unitsInOne := by exact_mod_cast unitsInOne_pos
  unfold decimalUnits
  rw [le_div_iff₀ unitPositive] at least
  generalize (unitsInOne : ℚ) = unit at *
  -- One step on the grid of seventeen digits, in units.
  generalize step : (10 : ℚ) ^ (place - (17 : Nat)) * unit = grid
  have gridPositive : 0 < grid := by rw [← step]; positivity
  have fine : 10 ^ 16 * grid ≤ unitsOfPattern pattern := by
    have shifted : (10 : ℚ) ^ (place - 1) = 10 ^ 16 * 10 ^ (place - (17 : Nat)) := by
      rw [← zpow_natCast, ← zpow_add₀ (by norm_num)]
      congr 1
      push_cast
      ring
    rw [← step, ← mul_assoc, ← shifted]
    exact least
  have inverse : (10 : ℚ) ^ ((17 : Nat) - place) * 10 ^ (place - (17 : Nat)) = 1 := by
    rw [← zpow_add₀ (by norm_num)]
    norm_num
  have value : (numerator / denominator : ℚ) * grid = unitsOfPattern pattern := by
    rw [ratio, ← step]
    field_simp
    linear_combination (unitsOfPattern pattern : ℚ) * inverse
  have distance : 2 * |(nearer : ℚ) * grid - unitsOfPattern pattern| ≤ grid := by
    rw [← value, ← sub_mul, abs_mul, abs_of_pos gridPositive]
    nlinarith
  have nonzero : 0 < nearer := by
    rcases Nat.eq_zero_or_pos nearer with rfl | positive
    · rw [← value] at fine
      have big : (10 : ℚ) ^ 16 ≤ numerator / denominator := le_of_mul_le_mul_right fine gridPositive
      rw [Nat.cast_zero, zero_sub, abs_neg] at near
      have := le_abs_self ((numerator : ℚ) / denominator)
      linarith
    · exact positive
  refine ⟨nonzero.ne', ?_⟩
  rw [mul_assoc, step]
  exact rounds_of_abs_sub_lt (by linarith) (by linarith)

/-! ## The shortest decimal -/

theorem dropZeros_spec {digits width : Nat} (positive : 0 < width)
    (least : 10 ^ (width - 1) ≤ digits)
    (most : digits < 10 ^ width) :
    0 < (dropZeros digits width).2 ∧ (dropZeros digits width).2 ≤ width ∧
      10 ^ ((dropZeros digits width).2 - 1) ≤ (dropZeros digits width).1 ∧
      (dropZeros digits width).1 < 10 ^ (dropZeros digits width).2 ∧
      (dropZeros digits width).1 * 10 ^ (width - (dropZeros digits width).2) = digits := by
  induction width generalizing digits with
  | zero => omega
  | succ width ih =>
      unfold dropZeros
      split
      · rename_i zero
        have whole : digits / 10 * 10 = digits := by omega
        rw [Nat.add_sub_cancel] at least
        have width_pos : 0 < width := by
          rcases Nat.eq_zero_or_pos width with rfl | positive
          · norm_num at least most
            omega
          · exact positive
        have power : 10 ^ width = 10 ^ (width - 1) * 10 := by
          rw [← pow_succ, Nat.sub_add_cancel width_pos]
        obtain ⟨some, short, lower, upper, value⟩ := @ih (digits / 10) width_pos
          (by omega) (by rw [pow_succ] at most; omega)
        refine ⟨some, by omega, lower, upper, ?_⟩
        rw [Nat.succ_sub short, pow_succ, ← mul_assoc, value, whole]
      · exact ⟨positive, le_refl _, least, most, by simp⟩

end Double

/-- Whether a decimal has the digits that it counts and denotes a pattern. -/
structure Decimal.Denotes (decimal : Decimal) (pattern : Nat) : Prop where
  /-- There is a digit. -/
  nonempty : 0 < decimal.width
  /-- The first digit is no zero. -/
  least : 10 ^ (decimal.width - 1) ≤ decimal.digits
  /-- There are no more digits. -/
  most : decimal.digits < 10 ^ decimal.width
  /-- The value rounds to the pattern. -/
  rounds : Double.Rounds pattern
    (Double.decimalUnits decimal.digits (decimal.point - decimal.width))

namespace Decimal.Denotes

variable {decimal : Decimal} {pattern : Nat}

theorem digits_pos (denotes : decimal.Denotes pattern) : 0 < decimal.digits :=
  lt_of_lt_of_le (by positivity) denotes.least

theorem length_toDigits (denotes : decimal.Denotes pattern) :
    (Nat.toDigits 10 decimal.digits).length = decimal.width :=
  ShelfLibrary.length_toDigits denotes.nonempty denotes.least denotes.most

end Decimal.Denotes

namespace Double

theorem unitsOfPattern_pos {pattern : Nat} (positive : 0 < pattern) :
    0 < unitsOfPattern pattern := by
  rcases pattern_cases pattern with small | ⟨shift, significand, least, most, rfl⟩
  · rw [unitsOfPattern_of_lt small]
    exact positive
  · rw [unitsOfPattern_binade _ least most.le]
    have : 0 < significand := by omega
    positivity

theorem log2_unitsOfPattern_lt {pattern : Nat} (positive : 0 < pattern)
    (finite : pattern < infinityPattern) : (unitsOfPattern pattern).log2 < 2098 := by
  have nonzero := (unitsOfPattern_pos positive).ne'
  rcases pattern_cases pattern with small | ⟨shift, significand, least, most, rfl⟩
  · rw [unitsOfPattern_of_lt small] at nonzero ⊢
    have := (Nat.log2_lt nonzero).mpr small
    omega
  · have last : shift ≤ 2045 := by
      unfold infinityPattern at finite
      omega
    have below : unitsOfPattern (shift * 2 ^ 52 + significand) < 2 ^ (53 + shift) := by
      rw [unitsOfPattern_binade _ least most.le, pow_add]
      exact Nat.mul_lt_mul_of_pos_right most (by positivity)
    have := (Nat.log2_lt nonzero).mpr below
    omega

/-- What is found among the widths up to seventeen. -/
theorem shortest_found (tie : Tie) {pattern : Nat} {place : Int} (positive : 0 < pattern)
    (least : (10 : ℚ) ^ (place - 1) ≤ unitsOfPattern pattern / unitsInOne) :
    ∃ digits width, 0 < width ∧ decimalOfWidth? tie pattern place width = some digits ∧
      ((List.range 17).findSome? fun n =>
        (decimalOfWidth? tie pattern place (n + 1)).map fun digits => (digits, n + 1)) =
          some (digits, width) := by
  cases found : (List.range 17).findSome? fun n =>
      (decimalOfWidth? tie pattern place (n + 1)).map fun digits => (digits, n + 1) with
  | none =>
      have absent := List.findSome?_eq_none_iff.mp found 16 (by simp)
      have present := decimalOfWidth?_seventeen tie positive least
      simp only [Option.map_eq_none_iff] at absent
      simp [absent] at present
  | some entry =>
      obtain ⟨n, -, taken⟩ := List.exists_of_findSome?_eq_some found
      obtain ⟨digits, ofWidth, rfl⟩ := Option.map_eq_some_iff.mp taken
      exact ⟨digits, n + 1, by omega, ofWidth, rfl⟩

/-- The shortest decimal of a positive finite pattern denotes the pattern. -/
theorem shortestOfPattern_denotes (tie : Tie) {pattern : Nat} (positive : 0 < pattern)
    (finite : pattern < infinityPattern) : (shortestOfPattern tie pattern).Denotes pattern := by
  have nonzero := unitsOfPattern_pos positive
  obtain ⟨lower, upper⟩ := decimalPlace_bounds nonzero (log2_unitsOfPattern_lt positive finite)
  unfold shortestOfPattern
  simp only
  generalize decimalPlace (unitsOfPattern pattern) unitsInOne = place at lower upper ⊢
  obtain ⟨digits, width, some, ofWidth, found⟩ := shortest_found tie positive lower
  obtain ⟨least, most, rounds⟩ := decimalOfWidth?_spec some lower upper ofWidth
  rw [found]
  simp only [Option.getD_some]
  split
  · rename_i full
    refine ⟨by simp, by simp, by simp, ?_⟩
    have same : decimalUnits 1 (place + 1 - (1 : Nat)) = decimalUnits digits (place - width) := by
      unfold decimalUnits
      have power : place = width + (place - width) := by ring
      rw [full, Nat.cast_one, Nat.cast_one, add_sub_cancel_right, one_mul, Nat.cast_pow,
        Nat.cast_ofNat, ← zpow_natCast, ← zpow_add₀ (by norm_num), ← power]
    rw [same]
    exact rounds
  · rename_i notFull
    obtain ⟨kept, short, lower, upper, value⟩ :=
      dropZeros_spec some least (lt_of_le_of_ne most notFull)
    refine ⟨kept, lower, upper, ?_⟩
    have same : decimalUnits (dropZeros digits width).1 (place - (dropZeros digits width).2) =
        decimalUnits digits (place - width) := by
      have power : place - ((dropZeros digits width).2 : Int) =
          ((width - (dropZeros digits width).2 : Nat) : Int) + (place - width) := by
        rw [Nat.cast_sub short]
        ring
      unfold decimalUnits
      rw [power, zpow_add₀ (by norm_num), zpow_natCast]
      conv_rhs => rw [← value]
      push_cast
      ring
    simp only
    rw [same]
    exact rounds

/-! ## Reading a decimal -/

theorem unitsOfPattern_succ_le {pattern : Nat} (finite : pattern < infinityPattern) :
    ∃ shift < 2046, unitsOfPattern (pattern + 1) ≤ 2 ^ 53 * 2 ^ shift := by
  rcases pattern_cases pattern with small | ⟨shift, significand, least, most, rfl⟩
  · refine ⟨0, by norm_num, ?_⟩
    rw [unitsOfPattern_of_le (by omega)]
    omega
  · refine ⟨shift, ?_, ?_⟩
    · unfold infinityPattern at finite
      omega
    · rw [Nat.add_assoc, unitsOfPattern_binade _ (by omega) (by omega)]
      exact Nat.mul_le_mul_right _ most

/-- The least power of ten that is taken as too large to be tried. -/
def tooLarge : Nat := 10 ^ 401

theorem tooLarge_eq : (tooLarge : ℚ) = 10 ^ (401 : Int) := by
  rw [tooLarge, Nat.cast_pow, ← zpow_natCast]
  rfl

theorem units_lt_tooLarge : 2 * unitsInOne < tooLarge := by
  decide +kernel

/-- No finite double comes near the powers of ten that are not tried. -/
theorem binade_lt_tooLarge :
    (List.range 2046).all (fun shift => 4 * (2 ^ 53 * 2 ^ shift) < tooLarge * unitsInOne) =
      true := by
  decide +kernel

theorem unitsOfPattern_lt_tooLarge {pattern : Nat} (finite : pattern < infinityPattern) :
    4 * unitsOfPattern (pattern + 1) < tooLarge * unitsInOne := by
  obtain ⟨shift, small, bound⟩ := unitsOfPattern_succ_le finite
  have checked := List.all_eq_true.mp binade_lt_tooLarge shift (List.mem_range.mpr small)
  exact lt_of_le_of_lt (Nat.mul_le_mul_left 4 bound) (of_decide_eq_true checked)

/-- The number of binary digits bounds the number of decimal digits from above. -/
theorem lt_ten_pow_log2 (digits : Nat) : digits < 10 ^ (digits.log2 / 3 + 1) := by
  calc digits < 2 ^ (digits.log2 + 1) := Nat.lt_log2_self
    _ ≤ 2 ^ (3 * (digits.log2 / 3 + 1)) := Nat.pow_le_pow_right (by norm_num) (by omega)
    _ = 8 ^ (digits.log2 / 3 + 1) := by rw [pow_mul]; norm_num
    _ ≤ 10 ^ (digits.log2 / 3 + 1) := Nat.pow_le_pow_left (by norm_num) _

/-- Half of that number bounds it from below. -/
theorem ten_pow_log2_le {digits : Nat} (nonzero : digits ≠ 0) :
    10 ^ ((digits.log2 / 3 + 1) / 2) ≤ 4 * digits := by
  calc 10 ^ ((digits.log2 / 3 + 1) / 2) ≤ 16 ^ ((digits.log2 / 3 + 1) / 2) :=
        Nat.pow_le_pow_left (by norm_num) _
    _ = 2 ^ (4 * ((digits.log2 / 3 + 1) / 2)) := by rw [pow_mul]; norm_num
    _ ≤ 2 ^ (digits.log2 + 2) := Nat.pow_le_pow_right (by norm_num) (by omega)
    _ = 4 * 2 ^ digits.log2 := by rw [pow_add]; ring
    _ ≤ 4 * digits := Nat.mul_le_mul_left 4 (Nat.log2_self_le nonzero)

theorem decimalUnits_pos_of_rounds {pattern digits : Nat} {exponent : Int} (positive : 0 < pattern)
    (rounds : Rounds pattern (decimalUnits digits exponent)) :
    1 ≤ 2 * decimalUnits digits exponent := by
  have least : (1 : ℚ) ≤ unitsOfPattern pattern := by exact_mod_cast unitsOfPattern_pos positive
  have below : (0 : ℚ) ≤ unitsOfPattern (pattern - 1) := by positivity
  have := rounds.1
  linarith

theorem tooLarge_pos : (0 : ℚ) < tooLarge := by
  rw [tooLarge_eq]
  positivity

/-- A decimal that rounds to a pattern other than zero has digits. -/
theorem digits_ne_zero_of_rounds {pattern digits : Nat} {exponent : Int} (positive : 0 < pattern)
    (rounds : Rounds pattern (decimalUnits digits exponent)) : digits ≠ 0 := by
  rintro rfl
  have least := decimalUnits_pos_of_rounds positive rounds
  rw [decimalUnits, Nat.cast_zero, zero_mul, zero_mul] at least
  linarith

/-- A decimal that rounds to a pattern other than zero is not taken for zero by its exponent. -/
theorem exponent_ge_of_rounds {pattern digits : Nat} {exponent : Int} (positive : 0 < pattern)
    (rounds : Rounds pattern (decimalUnits digits exponent)) :
    ¬ exponent + ((digits.log2 / 3 + 1 : Nat) : Int) < -400 := by
  intro tiny
  have nonzero := digits_ne_zero_of_rounds positive rounds
  have least := decimalUnits_pos_of_rounds positive rounds
  have unit : (0 : ℚ) < unitsInOne := by exact_mod_cast unitsInOne_pos
  have power : (digits : ℚ) * 10 ^ exponent < (tooLarge : ℚ)⁻¹ := by
    calc (digits : ℚ) * 10 ^ exponent < (10 ^ (digits.log2 / 3 + 1) : Nat) * 10 ^ exponent := by
          gcongr
          exact lt_ten_pow_log2 digits
      _ = 10 ^ (exponent + ((digits.log2 / 3 + 1 : Nat) : Int)) := by
          rw [zpow_add₀ (by norm_num), zpow_natCast, Nat.cast_pow, Nat.cast_ofNat]
          ring
      _ ≤ 10 ^ (-401 : Int) := zpow_le_zpow_right₀ (by norm_num) (by omega)
      _ = (tooLarge : ℚ)⁻¹ := by rw [tooLarge_eq, ← zpow_neg]
  have scaled : (digits : ℚ) * 10 ^ exponent * tooLarge < 1 := by
    rwa [← lt_div_iff₀ tooLarge_pos, one_div]
  have small : (2 * unitsInOne : ℚ) < tooLarge := by exact_mod_cast units_lt_tooLarge
  have value : (0 : ℚ) < digits * 10 ^ exponent := by positivity
  unfold decimalUnits at least
  nlinarith

/-- A decimal that rounds to a finite pattern is not taken for infinite by its exponent. -/
theorem exponent_le_of_rounds {pattern digits : Nat} {exponent : Int} (positive : 0 < pattern)
    (finite : pattern < infinityPattern) (rounds : Rounds pattern (decimalUnits digits exponent)) :
    ¬ 400 < exponent + (((digits.log2 / 3 + 1) / 2 : Nat) : Int) := by
  intro huge
  have nonzero := digits_ne_zero_of_rounds positive rounds
  have unit : (0 : ℚ) < unitsInOne := by exact_mod_cast unitsInOne_pos
  have power : (tooLarge : ℚ) ≤ 4 * (digits * 10 ^ exponent) := by
    calc (tooLarge : ℚ) = 10 ^ (401 : Int) := tooLarge_eq
      _ ≤ 10 ^ (exponent + (((digits.log2 / 3 + 1) / 2 : Nat) : Int)) :=
          zpow_le_zpow_right₀ (by norm_num) huge
      _ = (10 ^ ((digits.log2 / 3 + 1) / 2) : Nat) * 10 ^ exponent := by
          rw [zpow_add₀ (by norm_num), zpow_natCast, Nat.cast_pow, Nat.cast_ofNat]
          ring
      _ ≤ (4 * digits : Nat) * 10 ^ exponent := by
          gcongr
          exact ten_pow_log2_le nonzero
      _ = 4 * (digits * 10 ^ exponent) := by push_cast; ring
  have bound : (4 * unitsOfPattern (pattern + 1) : ℚ) < tooLarge * unitsInOne := by
    exact_mod_cast unitsOfPattern_lt_tooLarge finite
  have upper := rounds.2.1
  have rising := (unitsOfPattern_le_gap positive).2
  have value : (0 : ℚ) ≤ unitsOfPattern pattern := Nat.cast_nonneg _
  unfold decimalUnits at upper
  nlinarith

/-- The quotient that is formed of a decimal is rounded to the pattern that the decimal rounds
to. -/
theorem nearestPattern_of_rounds {pattern digits : Nat} {exponent : Int} (positive : 0 < pattern)
    (finite : pattern < infinityPattern) (rounds : Rounds pattern (decimalUnits digits exponent)) :
    (if 0 ≤ exponent then nearestPattern (digits * 10 ^ exponent.toNat) 1
      else nearestPattern digits (10 ^ (-exponent).toNat)) = pattern := by
  split
  · rename_i whole
    obtain ⟨n, rfl⟩ := Int.eq_ofNat_of_zero_le whole
    apply nearestPattern_eq Nat.one_pos positive finite
    rwa [Int.toNat_natCast, Nat.cast_one, div_one, Nat.cast_mul, Nat.cast_mul, Nat.cast_pow,
      Nat.cast_ofNat, ← zpow_natCast]
  · rename_i fractional
    obtain ⟨n, hn⟩ := Int.eq_ofNat_of_zero_le (show 0 ≤ -exponent by omega)
    obtain rfl : exponent = -(n : Int) := by omega
    apply nearestPattern_eq (by positivity) positive finite
    rwa [neg_neg, Int.toNat_natCast, Nat.cast_mul, Nat.cast_pow, Nat.cast_ofNat, div_eq_mul_inv,
      mul_right_comm, ← zpow_natCast, ← zpow_neg]

/-- A decimal that rounds to a finite pattern is read as that pattern. -/
theorem ofDecimal?_eq {negative : Bool} {digits pattern : Nat} {exponent : Int}
    (positive : 0 < pattern) (finite : pattern < infinityPattern)
    (rounds : Rounds pattern (decimalUnits digits exponent)) :
    ofDecimal? negative digits exponent = some (ofPattern negative pattern) := by
  have nonzero := digits_ne_zero_of_rounds positive rounds
  have notTiny := exponent_ge_of_rounds positive rounds
  have notHuge := exponent_le_of_rounds positive finite rounds
  have nearest := nearestPattern_of_rounds positive finite rounds
  push_cast at notTiny notHuge
  have unfolded : ofDecimal? negative digits exponent =
      if pattern = infinityPattern then none else some (ofPattern negative pattern) := by
    unfold ofDecimal?
    simp only [nonzero, decide_false, Bool.false_or, notTiny, notHuge, if_false, nearest,
      Bool.false_eq_true]
  rw [unfolded, if_neg finite.ne]

end Double

end ShelfLibrary
