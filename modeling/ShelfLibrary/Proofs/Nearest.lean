import ShelfLibrary.Proofs.Order
import ShelfLibrary.Proofs.Scan

/-!
# The nearest double

No double is nearer to a whole number than the one that it is rounded to.  So rounding takes a whole
number past no double, and leaves one of up to 53 binary digits as it is.
-/

namespace ShelfLibrary

/-! ## Rounding to a multiple -/

theorem roundHalfEven_cases (numerator denominator : Nat) :
    roundHalfEven numerator denominator = numerator / denominator ∧
        2 * (numerator % denominator) ≤ denominator ∨
      roundHalfEven numerator denominator = numerator / denominator + 1 ∧
        denominator ≤ 2 * (numerator % denominator) := by
  unfold roundHalfEven
  simp only
  split_ifs <;> omega

/-- No multiple of the denominator is nearer to the numerator than that of the rounded quotient. -/
theorem roundHalfEven_nearest {denominator : Nat} (positive : 0 < denominator)
    (numerator n : Nat) :
    ((numerator : ℤ) - (roundHalfEven numerator denominator * denominator : ℕ)).natAbs ≤
      ((numerator : ℤ) - (n * denominator : ℕ)).natAbs := by
  have whole := Nat.div_add_mod' numerator denominator
  have rest := Nat.mod_lt numerator positive
  have apart : n * denominator ≤ numerator / denominator * denominator ∨
      (numerator / denominator + 1) * denominator ≤ n * denominator := by
    rcases Nat.lt_or_ge (numerator / denominator) n with above | below
    · exact .inr (Nat.mul_le_mul_right _ above)
    · exact .inl (Nat.mul_le_mul_right _ below)
  rw [Nat.succ_mul] at apart
  rcases roundHalfEven_cases numerator denominator with ⟨rounded, half⟩ | ⟨rounded, half⟩ <;>
    rw [rounded]
  · omega
  · rw [Nat.succ_mul]
    omega

namespace Double

/-! ## Rounding to a pattern -/

/-- From a binade on, the values of patterns are multiples of its step. -/
theorem unitsOfPattern_grid (shift pattern : Nat) :
    (∃ n, unitsOfPattern pattern = n * 2 ^ shift) ∨
      0 < shift ∧ unitsOfPattern pattern < 2 ^ 52 * 2 ^ shift := by
  rcases Nat.eq_zero_or_pos shift with rfl | positive
  · exact .inl ⟨unitsOfPattern pattern, by simp⟩
  rcases pattern_cases pattern with small | ⟨other, significand, least, most, rfl⟩
  · refine .inr ⟨positive, ?_⟩
    rw [unitsOfPattern_of_lt small]
    exact small.trans_le (Nat.le_mul_of_pos_right _ (by positivity))
  · rw [unitsOfPattern_binade other least most.le]
    rcases Nat.lt_or_ge other shift with earlier | later
    · refine .inr ⟨positive, ?_⟩
      calc significand * 2 ^ other < 2 ^ 53 * 2 ^ other :=
            Nat.mul_lt_mul_of_pos_right most (by positivity)
        _ = 2 ^ 52 * 2 ^ (other + 1) := by ring
        _ ≤ 2 ^ 52 * 2 ^ shift :=
            Nat.mul_le_mul_left _ (Nat.pow_le_pow_right (by norm_num) earlier)
    · refine .inl ⟨significand * 2 ^ (other - shift), ?_⟩
      rw [mul_assoc, ← pow_add, Nat.sub_add_cancel later]

/-- The pattern of a number of units has the value that the units are rounded to. -/
theorem unitsOfPattern_patternOfUnits {units : Nat}
    (finite : patternOfUnits units 1 < infinityPattern) :
    unitsOfPattern (patternOfUnits units 1) =
      roundHalfEven units (2 ^ (units.log2 - 52)) * 2 ^ (units.log2 - 52) := by
  have place : patternOfUnits units 1 =
      (units.log2 - 52) * 2 ^ 52 + roundHalfEven units (2 ^ (units.log2 - 52)) := by
    unfold patternOfUnits at finite ⊢
    simp only [Nat.div_one, Nat.one_mul] at finite ⊢
    omega
  have below : units < 2 ^ (units.log2 + 1) := Nat.lt_log2_self
  rw [place]
  rcases Nat.lt_or_ge units (2 ^ 53) with small | large
  · have first : units.log2 - 52 = 0 := by
      rcases Nat.eq_zero_or_pos units with rfl | positive
      · simp
      · have := (Nat.log2_lt positive.ne').mpr small
        omega
    have kept : roundHalfEven units 1 = units := by
      rcases roundHalfEven_cases units 1 with ⟨rounded, -⟩ | ⟨-, half⟩
      · simpa using rounded
      · omega
    rw [first, pow_zero, kept, zero_mul, zero_add, mul_one, unitsOfPattern_of_le small.le]
  · have positive : units ≠ 0 := by omega
    have reached := (Nat.le_log2 positive).mpr large
    have bound := Nat.log2_self_le positive
    generalize exponent : units.log2 - 52 = shift
    have least : 2 ^ 52 ≤ units / 2 ^ shift := by
      rw [Nat.le_div_iff_mul_le (by positivity), ← pow_add]
      exact (Nat.pow_le_pow_right (by norm_num) (by omega)).trans bound
    have most : units / 2 ^ shift < 2 ^ 53 := by
      rw [Nat.div_lt_iff_lt_mul (by positivity), ← pow_add]
      exact below.trans_le (Nat.pow_le_pow_right (by norm_num) (by omega))
    rcases roundHalfEven_cases units (2 ^ shift) with ⟨rounded, -⟩ | ⟨rounded, -⟩ <;>
      exact unitsOfPattern_binade shift (by omega) (by omega)

/-- No pattern has a value nearer to a number of units than the pattern of the units. -/
theorem patternOfUnits_nearest {units : Nat} (finite : patternOfUnits units 1 < infinityPattern)
    (pattern : Nat) :
    ((units : ℤ) - unitsOfPattern (patternOfUnits units 1)).natAbs ≤
      ((units : ℤ) - unitsOfPattern pattern).natAbs := by
  rw [unitsOfPattern_patternOfUnits finite]
  rcases unitsOfPattern_grid (units.log2 - 52) pattern with ⟨n, multiple⟩ | ⟨later, small⟩
  · rw [multiple]
    exact roundHalfEven_nearest (by positivity) units n
  · -- The first pattern of the binade is nearer than all those before it.
    have positive : 0 < 2 ^ (units.log2 - 52) := by positivity
    have first := roundHalfEven_nearest positive units (2 ^ 52)
    have nonzero : units ≠ 0 := by
      rintro rfl
      simp at later
    have reached : 2 ^ 52 * 2 ^ (units.log2 - 52) ≤ units := by
      rw [← pow_add, show 52 + (units.log2 - 52) = units.log2 by omega]
      exact Nat.log2_self_le nonzero
    omega

/-! ## Rounding a whole number -/

theorem negative_ofPattern (negative : Bool) {pattern : Nat} (small : pattern < 2 ^ 63) :
    (ofPattern negative pattern).negative = negative := by
  unfold ofPattern Double.negative
  rw [UInt64.toNat_ofNat']
  cases negative with
  | false => exact decide_eq_false (by simp only [Bool.false_eq_true, if_false]; omega)
  | true => exact decide_eq_true (by simp only [if_true]; omega)

theorem units_ofPattern (negative : Bool) {pattern : Nat} (small : pattern < 2 ^ 63) :
    (ofPattern negative pattern).units =
      if negative then -(unitsOfPattern pattern : ℤ) else unitsOfPattern pattern := by
  rw [units, magnitude, negative_ofPattern negative small, pattern_ofPattern negative small]

theorem isNaN_ofInt {n : ℤ} (small : n.natAbs < 2 ^ 64) : (ofInt n).isNaN = false := by
  have finite := isFinite_ofInt small
  simp only [isFinite, isNaN, decide_eq_true_eq, decide_eq_false_iff_not] at finite ⊢
  omega

/-- No double is nearer to a whole number than the one that it is rounded to. -/
theorem ofInt_nearest {n : ℤ} (small : n.natAbs < 2 ^ 64) (d : Double) :
    (n * unitsInOne - (ofInt n).units).natAbs ≤ (n * unitsInOne - d.units).natAbs := by
  have finite := nearestPattern_lt small
  have bounded : nearestPattern n.natAbs 1 < 2 ^ 63 := finite.trans (by decide)
  have nearest := patternOfUnits_nearest finite d.pattern
  have rounded := units_ofPattern (n < 0) bounded
  change (ofInt n).units = _ at rounded
  rw [rounded, units, magnitude]
  change ((↑(n.natAbs * unitsInOne) : ℤ) - unitsOfPattern (nearestPattern n.natAbs 1)).natAbs ≤ _
    at nearest
  generalize unitsOfPattern (nearestPattern n.natAbs 1) = target at nearest ⊢
  generalize unitsOfPattern d.pattern = other at nearest ⊢
  rcases Int.lt_or_le n 0 with below | above
  · have size : n * (unitsInOne : ℤ) = -(↑(n.natAbs * unitsInOne) : ℤ) := by
      rw [Nat.cast_mul, Int.natCast_natAbs, abs_of_neg below]
      ring
    rw [size, decide_eq_true below]
    generalize n.natAbs * unitsInOne = units at nearest ⊢
    simp only [if_true]
    split <;> omega
  · have size : n * (unitsInOne : ℤ) = (↑(n.natAbs * unitsInOne) : ℤ) := by
      rw [Nat.cast_mul, Int.natCast_natAbs, abs_of_nonneg above]
    rw [size, decide_eq_false (Int.not_lt.mpr above)]
    generalize n.natAbs * unitsInOne = units at nearest ⊢
    simp only [Bool.false_eq_true, if_false]
    split <;> omega

/-- Rounding takes a whole number past no double: it keeps its side of each or meets it. -/
theorem compare_units_ofInt {n : ℤ} (small : n.natAbs < 2 ^ 64) (d : Double) :
    (ofInt n).units = d.units ∨
      compare (ofInt n).units d.units = compare (n * unitsInOne) d.units := by
  have nearest := ofInt_nearest small d
  generalize n * (unitsInOne : ℤ) = exact at nearest ⊢
  rcases lt_trichotomy (ofInt n).units d.units with below | same | above
  · have : exact < d.units := by omega
    exact .inr (by rw [compare_lt_iff_lt.mpr below, compare_lt_iff_lt.mpr this])
  · exact .inl same
  · have : d.units < exact := by omega
    exact .inr (by rw [compare_gt_iff_gt.mpr above, compare_gt_iff_gt.mpr this])

/-- A number of up to 53 binary digits has a pattern. -/
theorem exists_pattern {n : Nat} (short : n ≤ 2 ^ 53) :
    ∃ pattern < infinityPattern, unitsOfPattern pattern = n * unitsInOne := by
  rcases short.lt_or_eq with below | rfl
  · rcases Nat.eq_zero_or_pos n with rfl | positive
    · exact ⟨0, by decide, by simp [unitsOfPattern_of_lt]⟩
    · have reached := Nat.log2_self_le positive.ne'
      have bound := (Nat.log2_lt positive.ne').mpr below
      have next : n < 2 ^ (n.log2 + 1) := Nat.lt_log2_self
      have least : 2 ^ 52 ≤ n * 2 ^ (52 - n.log2) :=
        calc 2 ^ 52 = 2 ^ n.log2 * 2 ^ (52 - n.log2) := by rw [← pow_add]; congr 1; omega
          _ ≤ n * 2 ^ (52 - n.log2) := Nat.mul_le_mul_right _ reached
      have most : n * 2 ^ (52 - n.log2) < 2 ^ 53 :=
        calc n * 2 ^ (52 - n.log2) < 2 ^ (n.log2 + 1) * 2 ^ (52 - n.log2) :=
              Nat.mul_lt_mul_of_pos_right next (by positivity)
          _ = 2 ^ 53 := by rw [← pow_add]; congr 1; omega
      refine ⟨(1022 + n.log2) * 2 ^ 52 + n * 2 ^ (52 - n.log2), ?_, ?_⟩
      · unfold infinityPattern
        omega
      · rw [unitsOfPattern_binade _ least most.le, mul_assoc, ← pow_add, unitsInOne]
        congr 2
        omega
  · refine ⟨1074 * 2 ^ 52 + 2 ^ 53, by decide, ?_⟩
    rw [unitsOfPattern_binade _ (by norm_num) le_rfl, unitsInOne]

/-- A whole number of up to 53 binary digits is rounded to itself. -/
theorem units_ofInt {n : ℤ} (short : n.natAbs ≤ 2 ^ 53) : (ofInt n).units = n * unitsInOne := by
  obtain ⟨pattern, finite, value⟩ := exists_pattern short
  have same : (ofPattern (n < 0) pattern).units = n * unitsInOne := by
    rw [units_ofPattern _ (finite.trans (by decide)), value, Nat.cast_mul, Int.natCast_natAbs]
    rcases Int.lt_or_le n 0 with below | above
    · rw [decide_eq_true below, if_pos rfl, abs_of_neg below, neg_mul, neg_neg]
    · rw [decide_eq_false (Int.not_lt.mpr above), if_neg Bool.false_ne_true, abs_of_nonneg above]
  have nearest := ofInt_nearest (n := n) (by omega) (ofPattern (n < 0) pattern)
  rw [same] at nearest
  omega

end Double

end ShelfLibrary
