import Mathlib.Tactic
import ShelfLibrary.Double.Rounding
import ShelfLibrary.Double.Shortest

/-!
# Rounding to a pattern

The reals that round to a pattern lie half way to its neighbours on either side, and belong to it up
to the half when the pattern is even.  Rounding a quotient from such an interval gives the pattern,
and the interval is wide enough for a decimal of seventeen digits.
-/

namespace ShelfLibrary

/-! ## Rounding to a whole number -/

theorem roundHalfEven_eq {numerator denominator n : Nat} (positive : 0 < denominator)
    (lower : 2 * n * denominator ≤ 2 * numerator + denominator)
    (upper : 2 * numerator ≤ 2 * n * denominator + denominator)
    (odd : n % 2 = 1 → 2 * n * denominator < 2 * numerator + denominator ∧
      2 * numerator < 2 * n * denominator + denominator) :
    roundHalfEven numerator denominator = n := by
  have split := Nat.div_add_mod numerator denominator
  have remainder := Nat.mod_lt numerator positive
  unfold roundHalfEven
  simp only
  generalize numerator / denominator = q at split ⊢
  generalize numerator % denominator = r at split remainder ⊢
  subst split
  have most : q ≤ n := by
    by_contra above
    have : denominator * (n + 1) ≤ denominator * q := Nat.mul_le_mul_left _ (by omega)
    nlinarith
  have least : n ≤ q + 1 := by
    by_contra below
    have : denominator * (q + 2) ≤ denominator * n := Nat.mul_le_mul_left _ (by omega)
    nlinarith
  obtain rfl | rfl : n = q ∨ n = q + 1 := by omega
  · have half : 2 * r ≤ denominator := by nlinarith
    rcases half.lt_or_eq with small | tie
    · rw [if_pos small]
    · have even : n % 2 = 0 := by
        by_contra isOdd
        have := (odd (by omega)).2
        nlinarith
      rw [if_neg (by omega), if_neg (by omega), even]
      rfl
  · have half : denominator ≤ 2 * r := by nlinarith
    rcases half.lt_or_eq with large | tie
    · rw [if_neg (by omega), if_pos large]
    · have even : (q + 1) % 2 = 0 := by
        by_contra isOdd
        have := (odd (by omega)).1
        nlinarith
      rw [if_neg (by omega), if_neg (by omega)]
      omega

namespace Double

/-! ## The value of a pattern -/

theorem unitsOfPattern_of_lt {pattern : Nat} (small : pattern < 2 ^ 52) :
    unitsOfPattern pattern = pattern := if_pos small

/-- A pattern of a binade, up to the first of the next one. -/
theorem unitsOfPattern_binade (shift : Nat) {significand : Nat} (least : 2 ^ 52 ≤ significand)
    (most : significand ≤ 2 ^ 53) :
    unitsOfPattern (shift * 2 ^ 52 + significand) = significand * 2 ^ shift := by
  unfold unitsOfPattern
  rw [if_neg (by omega)]
  rcases most.lt_or_eq with below | rfl
  · have field : (shift * 2 ^ 52 + significand) / 2 ^ 52 = shift + 1 := by omega
    have rest : (shift * 2 ^ 52 + significand) % 2 ^ 52 = significand - 2 ^ 52 := by omega
    have whole : 2 ^ 52 + (significand - 2 ^ 52) = significand := by omega
    rw [field, rest, whole, Nat.add_sub_cancel]
  · have field : (shift * 2 ^ 52 + 2 ^ 53) / 2 ^ 52 = shift + 2 := by omega
    have rest : (shift * 2 ^ 52 + 2 ^ 53) % 2 ^ 52 = 0 := by omega
    rw [field, rest]
    have : shift + 2 - 1 = shift + 1 := by omega
    rw [this, pow_succ]
    ring

theorem unitsOfPattern_of_le {pattern : Nat} (small : pattern ≤ 2 ^ 53) :
    unitsOfPattern pattern = pattern := by
  rcases Nat.lt_or_ge pattern (2 ^ 52) with below | above
  · exact unitsOfPattern_of_lt below
  · simpa using unitsOfPattern_binade 0 above small

/-- A finite pattern has a binade, or is one of the least. -/
theorem pattern_cases (pattern : Nat) :
    pattern < 2 ^ 52 ∨ ∃ shift significand, 2 ^ 52 ≤ significand ∧ significand < 2 ^ 53 ∧
      pattern = shift * 2 ^ 52 + significand := by
  rcases Nat.lt_or_ge pattern (2 ^ 52) with below | above
  · exact .inl below
  · exact .inr ⟨pattern / 2 ^ 52 - 1, pattern % 2 ^ 52 + 2 ^ 52, by omega, by omega, by omega⟩

/-- The value above that of a pattern of a binade. -/
theorem unitsOfPattern_succ {shift significand : Nat} (least : 2 ^ 52 ≤ significand)
    (most : significand < 2 ^ 53) :
    unitsOfPattern (shift * 2 ^ 52 + significand + 1) = (significand + 1) * 2 ^ shift := by
  rw [Nat.add_assoc, unitsOfPattern_binade _ (by omega) (by omega)]

/-- The value below that of a pattern of a binade other than the first one of it. -/
theorem unitsOfPattern_pred {shift significand : Nat} (least : 2 ^ 52 < significand ∨ shift = 0)
    (most : significand < 2 ^ 53) (least' : 2 ^ 52 ≤ significand) :
    unitsOfPattern (shift * 2 ^ 52 + significand - 1) = (significand - 1) * 2 ^ shift := by
  rcases least with inside | rfl
  · have : shift * 2 ^ 52 + significand - 1 = shift * 2 ^ 52 + (significand - 1) := by omega
    rw [this, unitsOfPattern_binade _ (by omega) (by omega)]
  · rw [unitsOfPattern_of_le (by omega)]
    omega

/-- The value below that of the first pattern of a binade. -/
theorem unitsOfPattern_pred_first (shift : Nat) :
    unitsOfPattern ((shift + 1) * 2 ^ 52 + 2 ^ 52 - 1) = (2 ^ 53 - 1) * 2 ^ shift := by
  have : (shift + 1) * 2 ^ 52 + 2 ^ 52 - 1 = shift * 2 ^ 52 + (2 ^ 53 - 1) := by omega
  rw [this, unitsOfPattern_binade _ (by norm_num) (by norm_num)]

/-! ## The reals that round to a pattern -/

/-- Whether a real, in units, rounds to a pattern: it lies between the middles to the neighbours,
and on one of them only if the pattern is even. -/
def Rounds (pattern : Nat) (value : ℚ) : Prop :=
  (unitsOfPattern (pattern - 1) + unitsOfPattern pattern : ℚ) ≤ 2 * value ∧
    2 * value ≤ (unitsOfPattern pattern + unitsOfPattern (pattern + 1) : ℚ) ∧
    (pattern % 2 = 1 →
      (unitsOfPattern (pattern - 1) + unitsOfPattern pattern : ℚ) < 2 * value ∧
        2 * value < (unitsOfPattern pattern + unitsOfPattern (pattern + 1) : ℚ))

/-- The same of a quotient, without a division. -/
theorem roundsTo_iff_between {pattern numerator denominator : Nat} :
    roundsTo pattern numerator denominator = true ↔
      (unitsOfPattern (pattern - 1) + unitsOfPattern pattern) * denominator ≤ 2 * numerator ∧
        2 * numerator ≤ (unitsOfPattern pattern + unitsOfPattern (pattern + 1)) * denominator ∧
        (pattern % 2 = 1 →
          (unitsOfPattern (pattern - 1) + unitsOfPattern pattern) * denominator < 2 * numerator ∧
            2 * numerator <
              (unitsOfPattern pattern + unitsOfPattern (pattern + 1)) * denominator) := by
  unfold roundsTo
  rcases Nat.mod_two_eq_zero_or_one pattern with even | odd
  · simp [even]
  · simp only [odd, one_ne_zero, if_false, Bool.and_eq_true, decide_eq_true_eq, true_implies]
    constructor
    · exact fun inside => ⟨inside.1.le, inside.2.le, inside⟩
    · exact fun inside => inside.2.2

theorem roundsTo_iff {pattern numerator denominator : Nat} (positive : 0 < denominator) :
    roundsTo pattern numerator denominator = true ↔
      Rounds pattern ((numerator : ℚ) / denominator) := by
  have scale : (0 : ℚ) < denominator := by exact_mod_cast positive
  have lower_le (n : Nat) : (n : ℚ) ≤ 2 * (numerator / denominator) ↔
      n * denominator ≤ 2 * numerator := by
    rw [← mul_div_assoc, le_div_iff₀ scale]
    exact_mod_cast Iff.rfl
  have le_upper (n : Nat) : 2 * (numerator / denominator : ℚ) ≤ n ↔
      2 * numerator ≤ n * denominator := by
    rw [← mul_div_assoc, div_le_iff₀ scale]
    exact_mod_cast Iff.rfl
  have lower_lt (n : Nat) : (n : ℚ) < 2 * (numerator / denominator) ↔
      n * denominator < 2 * numerator := by
    rw [← mul_div_assoc, lt_div_iff₀ scale]
    exact_mod_cast Iff.rfl
  have lt_upper (n : Nat) : 2 * (numerator / denominator : ℚ) < n ↔
      2 * numerator < n * denominator := by
    rw [← mul_div_assoc, div_lt_iff₀ scale]
    exact_mod_cast Iff.rfl
  unfold Rounds
  rw [← Nat.cast_add, ← Nat.cast_add, lower_le, le_upper, lower_lt, lt_upper]
  exact roundsTo_iff_between

/-- Half of the way to the neighbours, for a value that is not on the middle. -/
theorem rounds_of_abs_sub_lt {pattern : Nat} {value : ℚ}
    (below : 2 * |value - unitsOfPattern pattern| <
      unitsOfPattern pattern - unitsOfPattern (pattern - 1))
    (above : 2 * |value - unitsOfPattern pattern| <
      unitsOfPattern (pattern + 1) - unitsOfPattern pattern) : Rounds pattern value := by
  have lower := neg_abs_le (value - unitsOfPattern pattern)
  have upper := le_abs_self (value - unitsOfPattern pattern)
  exact ⟨by linarith, by linarith, fun _ => ⟨by linarith, by linarith⟩⟩

/-- The neighbours of a pattern differ from it by no less than a 53rd binary digit of its value. -/
theorem unitsOfPattern_le_gap {pattern : Nat} (positive : 0 < pattern) :
    (unitsOfPattern pattern : ℚ) ≤
        2 ^ 53 * (unitsOfPattern pattern - unitsOfPattern (pattern - 1)) ∧
      (unitsOfPattern pattern : ℚ) ≤
        2 ^ 53 * (unitsOfPattern (pattern + 1) - unitsOfPattern pattern) := by
  rcases pattern_cases pattern with small | ⟨shift, significand, least, most, rfl⟩
  · rw [unitsOfPattern_of_lt small, unitsOfPattern_of_le (by omega),
      unitsOfPattern_of_le (by omega)]
    have below : (pattern : ℚ) < 2 ^ 53 := by exact_mod_cast (by omega : pattern < 2 ^ 53)
    rw [Nat.cast_sub (by omega)]
    push_cast
    constructor <;> linarith
  · have scale : (0 : ℚ) < 2 ^ shift := by positivity
    have width : (significand : ℚ) ≤ 2 ^ 53 := by exact_mod_cast most.le
    rw [unitsOfPattern_succ least most, unitsOfPattern_binade _ least most.le]
    constructor
    · by_cases inside : 2 ^ 52 < significand ∨ shift = 0
      · rw [unitsOfPattern_pred inside most least]
        rw [Nat.cast_mul, Nat.cast_mul, Nat.cast_sub (by omega)]
        push_cast
        nlinarith
      · obtain ⟨shift, rfl⟩ : ∃ n, shift = n + 1 := ⟨shift - 1, by omega⟩
        obtain rfl : significand = 2 ^ 52 := by omega
        rw [unitsOfPattern_pred_first]
        push_cast
        rw [pow_succ]
        ring_nf
        rfl
    · push_cast
      nlinarith

/-! ## Rounding to the nearest pattern -/

/-- A quotient that is rounded in a binade. -/
theorem patternOfUnits_of_binade {numerator denominator : Nat} (shift significand : Nat)
    (positive : 0 < denominator) (finite : shift * 2 ^ 52 + significand < infinityPattern)
    (binade : shift = 0 ∨ denominator * 2 ^ (52 + shift) ≤ numerator)
    (below : numerator < denominator * 2 ^ (53 + shift))
    (lower : 2 * significand * (denominator * 2 ^ shift) ≤ 2 * numerator + denominator * 2 ^ shift)
    (upper : 2 * numerator ≤ 2 * significand * (denominator * 2 ^ shift) + denominator * 2 ^ shift)
    (odd : significand % 2 = 1 →
      2 * significand * (denominator * 2 ^ shift) < 2 * numerator + denominator * 2 ^ shift ∧
        2 * numerator < 2 * significand * (denominator * 2 ^ shift) + denominator * 2 ^ shift) :
    patternOfUnits numerator denominator = shift * 2 ^ 52 + significand := by
  have whole : numerator / denominator < 2 ^ (53 + shift) := by
    rw [Nat.div_lt_iff_lt_mul positive, Nat.mul_comm (2 ^ (53 + shift))]
    exact below
  have logarithm : (numerator / denominator).log2 - 52 = shift := by
    rcases binade with rfl | reached
    · have : (numerator / denominator).log2 < 53 := by
        by_cases zero : numerator / denominator = 0
        · rw [zero]
          decide
        · exact (Nat.log2_lt zero).mpr whole
      omega
    · have reached : 2 ^ (52 + shift) ≤ numerator / denominator := by
        rw [Nat.le_div_iff_mul_le positive, Nat.mul_comm]
        exact reached
      have nonzero : numerator / denominator ≠ 0 := by
        have : 0 < 2 ^ (52 + shift) := by positivity
        omega
      have least := (Nat.le_log2 nonzero).mpr reached
      have most := (Nat.log2_lt nonzero).mpr whole
      omega
  have rounded : roundHalfEven numerator (denominator * 2 ^ shift) = significand :=
    roundHalfEven_eq (by positivity) lower upper odd
  unfold patternOfUnits
  rw [logarithm]
  simp only [rounded]
  exact Nat.min_eq_right finite.le

/-- Below the first binade the values of the patterns are the whole numbers. -/
theorem patternOfUnits_eq_of_least {numerator denominator pattern : Nat}
    (positive : 0 < denominator) (nonzero : 0 < pattern) (small : pattern < 2 ^ 52)
    (inside : roundsTo pattern numerator denominator = true) :
    patternOfUnits numerator denominator = pattern := by
  obtain ⟨lower, upper, odd⟩ := roundsTo_iff_between.mp inside
  obtain ⟨k, rfl⟩ : ∃ k, pattern = k + 1 := ⟨pattern - 1, by omega⟩
  simp only [Nat.add_sub_cancel, unitsOfPattern_of_lt small,
    unitsOfPattern_of_le (show k ≤ 2 ^ 53 by omega),
    unitsOfPattern_of_le (show k + 1 + 1 ≤ 2 ^ 53 by omega)] at lower upper odd
  have width := Nat.mul_le_mul_right denominator small.le
  have finite : k + 1 < infinityPattern := small.trans (by decide)
  have result : patternOfUnits numerator denominator = 0 * 2 ^ 52 + (k + 1) :=
    patternOfUnits_of_binade 0 (k + 1) positive
      (by simpa using finite) (.inl rfl) (by rw [Nat.add_zero]; linarith) (by linarith)
      (by linarith) (fun isOdd => ⟨by linarith [(odd isOdd).1], by linarith [(odd isOdd).2]⟩)
  simpa using result

/-- Inside a binade, both neighbours are one step of the binade away. -/
theorem patternOfUnits_eq_of_inside {numerator denominator shift significand : Nat}
    (positive : 0 < denominator) (finite : shift * 2 ^ 52 + significand < infinityPattern)
    (least : 2 ^ 52 ≤ significand) (most : significand < 2 ^ 53)
    (apart : 2 ^ 52 < significand ∨ shift = 0)
    (inside : roundsTo (shift * 2 ^ 52 + significand) numerator denominator = true) :
    patternOfUnits numerator denominator = shift * 2 ^ 52 + significand := by
  obtain ⟨lower, upper, odd⟩ := roundsTo_iff_between.mp inside
  have parity : (shift * 2 ^ 52 + significand) % 2 = significand % 2 := by omega
  simp only [unitsOfPattern_succ least most, unitsOfPattern_binade _ least most.le, parity,
    unitsOfPattern_pred apart most least] at lower upper odd
  have width := Nat.mul_le_mul_right (2 ^ shift * denominator)
    (by omega : significand + 1 ≤ 2 ^ 53)
  have scale : 0 < 2 ^ shift * denominator := by positivity
  obtain ⟨k, rfl⟩ : ∃ k, significand = k + 1 := ⟨significand - 1, by omega⟩
  simp only [Nat.add_sub_cancel] at lower odd
  refine patternOfUnits_of_binade _ _ positive finite ?_ ?_ (by linarith) (by linarith)
    (fun isOdd => ⟨by linarith [(odd isOdd).1], by linarith [(odd isOdd).2]⟩)
  · rcases apart with above | first
    · have height := Nat.mul_le_mul_right (2 ^ shift * denominator) (by omega : 2 ^ 52 ≤ k)
      rw [pow_add]
      exact .inr (by linarith)
    · exact .inl first
  · rw [pow_add]
    linarith

/-- The first pattern of a binade, whose neighbour below is half a step of the binade away. -/
theorem patternOfUnits_eq_of_first {numerator denominator shift : Nat}
    (positive : 0 < denominator) (finite : (shift + 1) * 2 ^ 52 + 2 ^ 52 < infinityPattern)
    (inside : roundsTo ((shift + 1) * 2 ^ 52 + 2 ^ 52) numerator denominator = true) :
    patternOfUnits numerator denominator = (shift + 1) * 2 ^ 52 + 2 ^ 52 := by
  obtain ⟨lower, upper, -⟩ := roundsTo_iff_between.mp inside
  have double : 2 ^ (shift + 1) = 2 * 2 ^ shift := by ring
  have last : 2 ^ 53 - 1 = 9007199254740991 := by norm_num
  have scale : 0 < 2 ^ shift * denominator := by positivity
  rw [unitsOfPattern_pred_first, unitsOfPattern_binade _ le_rfl (by norm_num), double, last]
    at lower
  rw [unitsOfPattern_succ le_rfl (by norm_num), unitsOfPattern_binade _ le_rfl (by norm_num),
    double] at upper
  rcases Nat.lt_or_ge numerator (denominator * 2 ^ (53 + shift)) with short | reached
  · -- The value is below the pattern's own binade, and rounds up into it.
    have carried : (shift + 1) * 2 ^ 52 + 2 ^ 52 = shift * 2 ^ 52 + 2 ^ 53 := by ring
    rw [carried] at finite ⊢
    refine patternOfUnits_of_binade _ _ positive finite ?_ short ?_ ?_ (by norm_num)
    · rw [pow_add]
      exact .inr (by linarith)
    · linarith
    · rw [pow_add] at short
      linarith
  · have shifted : 52 + (shift + 1) = 53 + shift := by omega
    refine patternOfUnits_of_binade _ _ positive finite (.inr ?_) ?_ ?_ ?_ (by norm_num)
    · rw [shifted]
      exact reached
    · rw [pow_add, double]
      linarith
    · rw [pow_add] at reached
      rw [double]
      linarith
    · rw [double]
      linarith

/-- A quotient is rounded to the pattern that it belongs to. -/
theorem patternOfUnits_eq {numerator denominator pattern : Nat} (positive : 0 < denominator)
    (nonzero : 0 < pattern) (finite : pattern < infinityPattern)
    (inside : roundsTo pattern numerator denominator = true) :
    patternOfUnits numerator denominator = pattern := by
  rcases pattern_cases pattern with small | ⟨shift, significand, least, most, rfl⟩
  · exact patternOfUnits_eq_of_least positive nonzero small inside
  · by_cases apart : 2 ^ 52 < significand ∨ shift = 0
    · exact patternOfUnits_eq_of_inside positive finite least most apart inside
    · obtain ⟨shift, rfl⟩ : ∃ n, shift = n + 1 := ⟨shift - 1, by omega⟩
      obtain rfl : significand = 2 ^ 52 := by omega
      exact patternOfUnits_eq_of_first positive finite inside

theorem nearestPattern_eq {numerator denominator pattern : Nat} (positive : 0 < denominator)
    (nonzero : 0 < pattern) (finite : pattern < infinityPattern)
    (rounds : Rounds pattern ((numerator * unitsInOne : Nat) / denominator)) :
    nearestPattern numerator denominator = pattern :=
  patternOfUnits_eq positive nonzero finite ((roundsTo_iff positive).mpr rounds)

end Double

end ShelfLibrary
