import Mathlib.Data.EReal.Basic
import Mathlib.Order.Compare
import Mathlib.Tactic
import ShelfLibrary.Library.Checkout
import ShelfLibrary.Proofs.Decimal

/-!
# The order of sorting

Whole numbers, doubles, and a number of each kind are compared by three procedures, and all three
come to the exact values.  The order of values is a total preorder, and so is the order of sort keys
under any criteria.
-/

namespace ShelfLibrary

/-! ## Orders that compose -/

/-- If heads and rests compose, so do the lexicographic steps made of them. -/
theorem then_then_then {first second heads rest others tails : Ordering}
    (compose : first.isLE → second.isLE → heads = first.then second)
    (compose' : rest.isLE → others.isLE → tails = rest.then others)
    (left : (first.then rest).isLE) (right : (second.then others).isLE) :
    heads.then tails = (first.then rest).then (second.then others) := by
  rcases Ordering.isLE_then_iff_or.mp left with rfl | ⟨rfl, below⟩ <;>
    rcases Ordering.isLE_then_iff_or.mp right with rfl | ⟨rfl, below'⟩ <;>
    rw [compose rfl rfl]
  · rfl
  · rfl
  · cases rest <;> first | rfl | cases below
  · exact compose' below below'

/-- Of two steps that do not lead down, the greater one tells what both come to. -/
theorem compare_eq_then {α : Type} {compare : α → α → Ordering} [Std.TransCmp compare] {a b c : α}
    (left : (compare a b).isLE) (right : (compare b c).isLE) :
    compare a c = (compare a b).then (compare b c) := by
  rcases Ordering.isLE_iff_eq_lt_or_eq_eq.mp left with below | same
  · rw [below, Ordering.lt_then]
    exact Std.TransCmp.lt_of_lt_of_isLE below right
  · rw [same, Ordering.eq_then]
    exact Std.TransCmp.congr_left same

theorem compare_toInt (a b : Int64) : compare a b = compare a.toInt b.toInt := by
  change compareOfLessAndEq a b = compareOfLessAndEq a.toInt b.toInt
  simp only [compareOfLessAndEq, Int64.lt_iff_toInt_lt, Int64.toInt_inj]

namespace Double

/-! ## Whole numbers and doubles -/

/-- Cutting a quotient to a whole number and then comparing what was cut off with nothing compares
the quotient itself. -/
theorem compare_tdiv (n units : Int) {unit : Int} (positive : 0 < unit) :
    (match compare n (units.tdiv unit) with
      | .eq => compare 0 (units - units.tdiv unit * unit)
      | other => other) = compare (n * unit) units := by
  have parts := Int.tdiv_mul_add_tmod units unit
  have least := Int.lt_tmod_of_pos units positive
  have most := Int.tmod_lt_of_pos units positive
  generalize units.tdiv unit = whole at parts ⊢
  generalize units.tmod unit = rest at parts least most
  subst parts
  have cutOff : whole * unit + rest - whole * unit = rest := by omega
  rw [cutOff]
  rcases lt_trichotomy n whole with below | rfl | above
  · have step : (n + 1) * unit ≤ whole * unit := Int.mul_le_mul_of_nonneg_right below positive.le
    have : n * unit < whole * unit + rest := by linarith
    rw [compare_lt_iff_lt.mpr below, compare_lt_iff_lt.mpr this]
  · rw [compare_eq_iff_eq.mpr rfl]
    rcases lt_trichotomy 0 rest with more | rfl | less
    · have : n * unit < n * unit + rest := by omega
      rw [compare_lt_iff_lt.mpr more, compare_lt_iff_lt.mpr this]
    · simp
    · have : n * unit + rest < n * unit := by omega
      rw [compare_gt_iff_gt.mpr less, compare_gt_iff_gt.mpr this]
  · have step : (whole + 1) * unit ≤ n * unit := Int.mul_le_mul_of_nonneg_right above positive.le
    have : whole * unit + rest < n * unit := by linarith
    rw [compare_gt_iff_gt.mpr above, compare_gt_iff_gt.mpr this]

/-- A quotient within bounds is cut to a whole number within them. -/
theorem tdiv_mem_Ico {units unit bound : Int} (positive : 0 < unit)
    (least : -(bound * unit) ≤ units) (most : units < bound * unit) :
    -bound ≤ units.tdiv unit ∧ units.tdiv unit < bound := by
  have : 0 < bound := pos_of_mul_pos_left (by omega : 0 < bound * unit) positive.le
  rcases Int.le_total 0 units with nonneg | nonpos
  · rw [Int.tdiv_eq_ediv_of_nonneg nonneg]
    have : 0 ≤ units / unit := Int.ediv_nonneg nonneg positive.le
    exact ⟨by omega, Int.ediv_lt_of_lt_mul positive most⟩
  · rw [← Int.neg_neg units, Int.neg_tdiv, Int.tdiv_eq_ediv_of_nonneg (by omega)]
    have : 0 ≤ -units / unit := Int.ediv_nonneg (by omega) positive.le
    have : -units / unit ≤ bound := Int.ediv_le_of_le_mul positive (by omega)
    omega

/-- A whole number and a number compare by their values in units. -/
theorem compareInt_eq (n : Int64) {d : Double} (number : d.isNaN = false) :
    compareInt n d = compare (n.toInt * unitsInOne) d.units := by
  have positive : (0 : Int) < unitsInOne := by exact_mod_cast unitsInOne_pos
  have lower : -2 ^ 63 * (unitsInOne : Int) ≤ n.toInt * unitsInOne :=
    Int.mul_le_mul_of_nonneg_right n.le_toInt positive.le
  have upper : n.toInt * (unitsInOne : Int) < 2 ^ 63 * unitsInOne :=
    Int.mul_lt_mul_of_pos_right n.toInt_lt positive
  unfold compareInt
  simp only [number, Bool.false_or, decide_eq_true_eq]
  split_ifs with large small
  · exact (compare_lt_iff_lt.mpr (upper.trans_le large)).symm
  · exact (compare_gt_iff_gt.mpr (small.trans_le (by linarith))).symm
  · have ⟨least, most⟩ := tdiv_mem_Ico positive (Int.not_lt.mp small)
      (Int.not_le.mp large)
    have within : (Int64.ofInt (d.units.tdiv unitsInOne)).toInt = d.units.tdiv unitsInOne :=
      Int64.toInt_ofInt_of_le least most
    rw [compare_toInt, within]
    exact compare_tdiv n.toInt d.units positive

/-! ## Exact values -/

/-- The number that a double stands for: sign, exponent and fraction, or an infinity.  A word that
is no number has no value of its own. -/
noncomputable def value (d : Double) : EReal :=
  let sign : ℝ := if d.negative then -1 else 1
  if d.exponentField = 2047 then if d.negative then ⊥ else ⊤
  else if d.exponentField = 0 then ((sign * ((d.fraction : ℝ) * 2 ^ (-1074 : ℤ)) : ℝ) : EReal)
  else ((sign * ((2 ^ 52 + (d.fraction : ℝ)) * 2 ^ ((d.exponentField : ℤ) - 1075)) : ℝ) : EReal)

/-- As many units as an infinity counts for. -/
@[irreducible]
def infinityUnits : Nat := unitsOfPattern infinityPattern

/-- So many units as a number. -/
noncomputable def ofUnits (units : Int) : EReal :=
  if infinityUnits ≤ units then ⊤
  else if units ≤ -infinityUnits then ⊥
  else (((units : ℝ) * 2 ^ (-1074 : ℤ) : ℝ) : EReal)

theorem unitsInOne_lt_infinityUnits : 2 ^ 63 * unitsInOne < infinityUnits := by
  decide +kernel

theorem infinityUnits_pos : 0 < infinityUnits :=
  (Nat.zero_le _).trans_lt unitsInOne_lt_infinityUnits

theorem unitsInOne_mul_inv : (unitsInOne : ℝ) * 2 ^ (-1074 : ℤ) = 1 := by
  have power : (unitsInOne : ℝ) = 2 ^ (1074 : ℤ) :=
    (Nat.cast_pow 2 1074).trans (zpow_natCast _ _).symm
  rw [power, ← zpow_add₀ two_ne_zero]
  exact zpow_zero _

theorem ofUnits_finite {units : Int} (least : -(infinityUnits : Int) < units)
    (most : units < infinityUnits) :
    ofUnits units = (((units : ℝ) * 2 ^ (-1074 : ℤ) : ℝ) : EReal) := by
  rw [ofUnits, if_neg (by omega), if_neg (by omega)]

theorem ofUnits_lt {a b : Int} (least : -(infinityUnits : Int) ≤ a) (most : b ≤ infinityUnits)
    (below : a < b) : ofUnits a < ofUnits b := by
  have positive : (0 : ℝ) < 2 ^ (-1074 : ℤ) := by positivity
  have := infinityUnits_pos
  unfold ofUnits
  rw [if_neg (by omega), if_neg (by omega : ¬ b ≤ -(infinityUnits : Int))]
  split_ifs
  · exact bot_lt_top
  · exact EReal.bot_lt_coe _
  · exact EReal.coe_lt_top _
  · exact EReal.coe_lt_coe_iff.mpr (mul_lt_mul_of_pos_right (by exact_mod_cast below) positive)

theorem compare_ofUnits {a b : Int} (left : |a| ≤ infinityUnits) (right : |b| ≤ infinityUnits) :
    compare (ofUnits a) (ofUnits b) = compare a b := by
  have ⟨least, most⟩ := abs_le.mp left
  have ⟨least', most'⟩ := abs_le.mp right
  rcases lt_trichotomy a b with below | rfl | above
  · rw [compare_lt_iff_lt.mpr below, compare_lt_iff_lt.mpr (ofUnits_lt least most' below)]
  · rw [compare_eq_iff_eq.mpr rfl, compare_eq_iff_eq.mpr rfl]
  · rw [compare_gt_iff_gt.mpr above, compare_gt_iff_gt.mpr (ofUnits_lt least' most above)]

theorem pattern_lt (d : Double) : d.pattern < 2 ^ 63 :=
  Nat.mod_lt _ (by decide)

/-- A finite number of units is the product of a significand and a power. -/
theorem magnitude_eq (d : Double) : (d.magnitude : ℝ) * 2 ^ (-1074 : ℤ) =
    if d.exponentField = 0 then (d.fraction : ℝ) * 2 ^ (-1074 : ℤ)
    else (2 ^ 52 + (d.fraction : ℝ)) * 2 ^ ((d.exponentField : ℤ) - 1075) := by
  unfold magnitude
  rcases pattern_cases d.pattern with small | ⟨shift, significand, least, most, place⟩
  · have first : d.exponentField = 0 := by unfold exponentField; omega
    have whole : d.fraction = d.pattern := by unfold fraction; omega
    rw [if_pos first, whole, unitsOfPattern_of_lt small]
  · have field : d.exponentField = shift + 1 := by unfold exponentField; omega
    have rest : significand = 2 ^ 52 + d.fraction := by unfold fraction; omega
    have power : (2 : ℝ) ^ shift * 2 ^ (-1074 : ℤ) = 2 ^ (((shift + 1 : ℕ) : ℤ) - 1075) := by
      rw [← zpow_natCast, ← zpow_add₀ two_ne_zero]
      congr 1
      omega
    rw [if_neg (by omega), place, unitsOfPattern_binade shift least most.le, field, rest,
      Nat.cast_mul, Nat.cast_pow, Nat.cast_ofNat, mul_assoc, power]
    norm_num

/-- Patterns are in the order of their values. -/
theorem unitsOfPattern_strictMono : StrictMono unitsOfPattern := by
  intro a b below
  rcases pattern_cases b with small | ⟨shift, significand, least, most, rfl⟩
  · rwa [unitsOfPattern_of_lt (below.trans small), unitsOfPattern_of_lt small]
  rw [unitsOfPattern_binade shift least most.le]
  rcases pattern_cases a with small | ⟨shift', significand', least', most', rfl⟩
  · rw [unitsOfPattern_of_lt small]
    exact (small.trans_le least).trans_le (Nat.le_mul_of_pos_right _ (by positivity))
  rw [unitsOfPattern_binade shift' least' most'.le]
  rcases Nat.lt_or_ge shift' shift with earlier | later
  · calc significand' * 2 ^ shift' < 2 ^ 53 * 2 ^ shift' :=
          Nat.mul_lt_mul_of_pos_right most' (by positivity)
      _ = 2 ^ 52 * 2 ^ (shift' + 1) := by ring
      _ ≤ significand * 2 ^ shift :=
          Nat.mul_le_mul least (Nat.pow_le_pow_right (by norm_num) earlier)
  · obtain rfl : shift' = shift := by omega
    exact Nat.mul_lt_mul_of_pos_right (by omega) (by positivity)

theorem magnitude_lt {d : Double} (finite : d.exponentField ≠ 2047) :
    d.magnitude < infinityUnits := by
  have bounded := d.pattern_lt
  unfold exponentField at finite
  unfold infinityUnits
  apply unitsOfPattern_strictMono
  unfold infinityPattern
  omega

theorem magnitude_of_infinite {d : Double} (number : d.isNaN = false)
    (infinite : d.exponentField = 2047) : d.magnitude = infinityUnits := by
  have most : ¬ infinityPattern < d.pattern := of_decide_eq_false number
  have place : d.pattern = infinityPattern := by
    unfold exponentField at infinite
    unfold infinityPattern at most ⊢
    omega
  unfold infinityUnits
  exact congrArg unitsOfPattern place

theorem abs_units_le {d : Double} (number : d.isNaN = false) : |d.units| ≤ infinityUnits := by
  have bounded : d.magnitude ≤ infinityUnits := by
    by_cases infinite : d.exponentField = 2047
    · exact (magnitude_of_infinite number infinite).le
    · exact (magnitude_lt infinite).le
  unfold units
  split <;> simpa using bounded

/-- The value of a number is its number of units. -/
theorem value_eq_ofUnits {d : Double} (number : d.isNaN = false) : d.value = ofUnits d.units := by
  have positive := infinityUnits_pos
  by_cases infinite : d.exponentField = 2047
  · have size := magnitude_of_infinite number infinite
    unfold value ofUnits units
    cases d.negative with
    | true => simp only [if_pos infinite, if_true, size]; rw [if_neg (by omega), if_pos le_rfl]
    | false => simp [infinite, size]
  · have bound := magnitude_lt infinite
    have finite : ofUnits d.units = (((d.units : ℝ) * 2 ^ (-1074 : ℤ) : ℝ) : EReal) := by
      apply ofUnits_finite <;> unfold units <;> split <;> omega
    have size := magnitude_eq d
    rw [finite]
    unfold value units
    simp only [if_neg infinite]
    by_cases first : d.exponentField = 0
    · rw [if_pos first] at size ⊢
      rw [← size]
      cases d.negative <;> simp
    · rw [if_neg first] at size ⊢
      rw [← size]
      cases d.negative <;> simp

theorem ofUnits_mul_unitsInOne (n : Int64) :
    |n.toInt * (unitsInOne : Int)| < infinityUnits ∧
      ofUnits (n.toInt * unitsInOne) = ((n.toInt : ℝ) : EReal) := by
  have bound : |n.toInt * (unitsInOne : Int)| < infinityUnits := by
    rw [abs_mul, Nat.abs_cast]
    calc |n.toInt| * (unitsInOne : Int) ≤ 2 ^ 63 * unitsInOne :=
          Int.mul_le_mul_of_nonneg_right
            (abs_le.mpr ⟨n.le_toInt, n.toInt_lt.le⟩) (Int.natCast_nonneg _)
      _ < infinityUnits := by exact_mod_cast unitsInOne_lt_infinityUnits
  refine ⟨bound, ?_⟩
  rw [ofUnits_finite (abs_lt.mp bound).1 (abs_lt.mp bound).2, Int.cast_mul, Int.cast_natCast,
    mul_assoc, unitsInOne_mul_inv, mul_one]

/-- A whole number and a number compare by their exact values. -/
theorem compareInt_eq_compare_value (n : Int64) {d : Double} (number : d.isNaN = false) :
    compareInt n d = compare ((n.toInt : ℝ) : EReal) d.value := by
  have ⟨bound, whole⟩ := ofUnits_mul_unitsInOne n
  rw [compareInt_eq n number, value_eq_ofUnits number, ← whole,
    compare_ofUnits bound.le (abs_units_le number)]

end Double

namespace Value

/-! ## Numbers of both kinds -/

/-- The place of a number among all numbers, in units; what is no number comes last. -/
def place : Value → WithTop ℤ
  | .int n => (n.toInt * Double.unitsInOne : ℤ)
  | .float d => if d.isNaN then ⊤ else d.units
  | _ => ⊤

theorem compare_coe (a b : ℤ) : compare (a : WithTop ℤ) b = compare a b := by
  rw [← cmp_eq_compare, ← cmp_eq_compare]
  exact WithTop.coe_strictMono.cmp_map_eq a b

theorem compare_coe_top (a : ℤ) : compare (a : WithTop ℤ) ⊤ = .lt :=
  compare_lt_iff_lt.mpr (WithTop.coe_lt_top a)

theorem compare_top_coe (a : ℤ) : compare ⊤ (a : WithTop ℤ) = .gt :=
  compare_gt_iff_gt.mpr (WithTop.coe_lt_top a)

theorem compare_mul_unitsInOne (a b : ℤ) :
    compare (a * Double.unitsInOne) (b * Double.unitsInOne) = compare a b := by
  have positive : (0 : Int) < Double.unitsInOne := by exact_mod_cast Double.unitsInOne_pos
  rw [← cmp_eq_compare, ← cmp_eq_compare]
  exact (strictMono_mul_right_of_pos positive).cmp_map_eq a b

theorem compareInt_eq_compare_place (n : Int64) (d : Double) :
    Double.compareInt n d = compare (place (.int n)) (place (.float d)) := by
  cases number : d.isNaN with
  | false =>
    rw [Double.compareInt_eq n number]
    simp only [place, number, Bool.false_eq_true, if_false]
    exact (compare_coe _ _).symm
  | true =>
    simp only [place, number, if_true, Double.compareInt, Bool.true_or]
    exact (compare_coe_top _).symm

/-- The three procedures that compare numbers all compare their places. -/
theorem sortCompare_numbers {a b : Value} (left : a.isNumber) (right : b.isNumber) :
    sortCompare a b = compare a.place b.place := by
  match a, b with
  | .int a, .int b =>
    rw [sortCompare, place, place, compare_coe, compare_mul_unitsInOne]
  | .int a, .float b =>
    rw [sortCompare, compareInt_eq_compare_place]
  | .float a, .int b =>
    rw [sortCompare, compareInt_eq_compare_place]
    exact (Std.OrientedCmp.eq_swap).symm
  | .float a, .float b =>
    rw [sortCompare, sortDoubles]
    cases first : a.isNaN <;> cases second : b.isNaN <;>
      simp [place, first, second, compare_coe, compare_coe_top, compare_top_coe]

/-! ## Values of different kinds -/

theorem sortCompare_of_rank_ne {a b : Value} (different : a.rank ≠ b.rank) :
    sortCompare a b = compare a.rank b.rank := by
  cases a <;> cases b <;> first | rfl | exact absurd rfl different

theorem rank_le_of_isLE {a b : Value} (order : (sortCompare a b).isLE) : a.rank ≤ b.rank := by
  by_cases same : a.rank = b.rank
  · exact same.le
  · rw [sortCompare_of_rank_ne same, Ordering.isLE_iff_ne_gt] at order
    exact compare_le_iff_le.mp order

theorem sortCompare_of_rank_lt {a b : Value} (below : a.rank < b.rank) :
    sortCompare a b = .lt := by
  rw [sortCompare_of_rank_ne below.ne, compare_lt_iff_lt.mpr below]

/-! ## The total preorder -/

instance : Std.TransCmp Instant.compare :=
  inferInstanceAs (Std.TransCmp (compareLex (compareOn Instant.seconds) (compareOn Instant.nanos)))

-- Lists call back to values, so each law is first shown of values whose lists obey it; the mutual
-- theorems below then only tie the two together.

/-- Two values are compared alike in both directions if lists are. -/
theorem sortCompare_swap_of_items (a b : Value)
    (items : ∀ xs ys, a = .list xs → b = .list ys → sortItems xs ys = (sortItems ys xs).swap) :
    sortCompare a b = (sortCompare b a).swap := by
  by_cases same : a.rank = b.rank
  · match a, b with
    | .null, .null => rfl
    | .bool _, .bool _ | .text _, .text _ | .instant _, .instant _ | .record _, .record _ =>
      simp only [sortCompare]
      exact Std.OrientedCmp.eq_swap
    | .int _, .int _ | .int _, .float _ | .float _, .int _ | .float _, .float _ =>
      rw [sortCompare_numbers rfl rfl, sortCompare_numbers rfl rfl]
      exact Std.OrientedCmp.eq_swap
    | .list xs, .list ys =>
      rw [sortCompare, sortCompare]
      exact items xs ys rfl rfl
  · rw [sortCompare_of_rank_ne same, sortCompare_of_rank_ne (Ne.symm same)]
    exact Std.OrientedCmp.eq_swap

/-- Three values that do not descend compare as their steps if lists do. -/
theorem sortCompare_then_of_items (a b c : Value)
    (items : ∀ xs ys zs, a = .list xs → b = .list ys → c = .list zs →
      (sortItems xs ys).isLE → (sortItems ys zs).isLE →
        sortItems xs zs = (sortItems xs ys).then (sortItems ys zs))
    (left : (sortCompare a b).isLE) (right : (sortCompare b c).isLE) :
    sortCompare a c = (sortCompare a b).then (sortCompare b c) := by
  rcases (rank_le_of_isLE left).lt_or_eq with below | first
  · rw [sortCompare_of_rank_lt below,
      sortCompare_of_rank_lt (below.trans_le (rank_le_of_isLE right)), Ordering.lt_then]
  rcases (rank_le_of_isLE right).lt_or_eq with below | second
  · rw [sortCompare_of_rank_lt below, sortCompare_of_rank_lt (first.trans_lt below)]
    exact (Ordering.then_eq_lt.mpr (by
      rcases Ordering.isLE_iff_eq_lt_or_eq_eq.mp left with below | same
      · exact .inl below
      · exact .inr ⟨same, rfl⟩)).symm
  match a, b, c with
  | .null, .null, .null => rfl
  | .bool _, .bool _, .bool _ | .text _, .text _, .text _ | .instant _, .instant _, .instant _
  | .record _, .record _, .record _ =>
    simp only [sortCompare] at left right ⊢
    exact compare_eq_then left right
  | .int _, .int _, .int _ | .int _, .int _, .float _ | .int _, .float _, .int _
  | .int _, .float _, .float _ | .float _, .int _, .int _ | .float _, .int _, .float _
  | .float _, .float _, .int _ | .float _, .float _, .float _ =>
    rw [sortCompare_numbers rfl rfl] at left right
    rw [sortCompare_numbers rfl rfl, sortCompare_numbers rfl rfl, sortCompare_numbers rfl rfl]
    exact compare_eq_then left right
  | .list xs, .list ys, .list zs =>
    rw [sortCompare] at left right
    rw [sortCompare, sortCompare, sortCompare]
    exact items xs ys zs rfl rfl rfl left right

mutual

theorem sortCompare_swap (a b : Value) : sortCompare a b = (sortCompare b a).swap :=
  sortCompare_swap_of_items a b fun xs ys _ _ => sortItems_swap xs ys
termination_by sizeOf a
decreasing_by simp_all

theorem sortItems_swap (xs ys : List Value) : sortItems xs ys = (sortItems ys xs).swap := by
  match xs, ys with
  | [], [] => rfl
  | [], _ :: _ => rfl
  | _ :: _, [] => rfl
  | x :: xs, y :: ys =>
    rw [sortItems, sortItems, Ordering.swap_then, ← sortCompare_swap x y, ← sortItems_swap xs ys]
termination_by sizeOf xs

end

mutual

theorem sortCompare_then (a b c : Value) (left : (sortCompare a b).isLE)
    (right : (sortCompare b c).isLE) :
    sortCompare a c = (sortCompare a b).then (sortCompare b c) :=
  sortCompare_then_of_items a b c (fun xs ys zs _ _ _ => sortItems_then xs ys zs) left right
termination_by sizeOf a

theorem sortItems_then (xs ys zs : List Value) (left : (sortItems xs ys).isLE)
    (right : (sortItems ys zs).isLE) :
    sortItems xs zs = (sortItems xs ys).then (sortItems ys zs) := by
  match xs, ys, zs with
  | [], [], _ => rfl
  | [], _ :: _, _ :: _ => rfl
  | x :: xs, y :: ys, z :: zs =>
    simp only [sortItems] at left right ⊢
    exact then_then_then (sortCompare_then x y z) (sortItems_then xs ys zs) left right
termination_by sizeOf xs

end

instance : Std.TransCmp sortCompare where
  eq_swap := sortCompare_swap _ _
  isLE_trans left right := by
    rw [sortCompare_then _ _ _ left right, Ordering.isLE_then_iff_and]
    exact ⟨left, .inr right⟩

/-- Numbers compare by their exact values. -/
theorem sortDoubles_eq_compare_value {a b : Double} (left : a.isNaN = false)
    (right : b.isNaN = false) : sortDoubles a b = compare a.value b.value := by
  rw [Double.value_eq_ofUnits left, Double.value_eq_ofUnits right,
    Double.compare_ofUnits (Double.abs_units_le left) (Double.abs_units_le right)]
  simp [sortDoubles, left, right]

end Value

namespace SortItem

/-! ## Several criteria -/

/-- Values to sort by, one for each criterion. -/
abbrev Keys (criteria : List SortItem) :=
  { keys : List Value // keys.length = criteria.length }

/-- The order of sort keys. -/
def compareKeys (criteria : List SortItem) (left right : Keys criteria) : Ordering :=
  compareAll criteria left.1 right.1

instance (item : SortItem) : Std.TransCmp item.compare := by
  obtain ⟨path, direction⟩ := item
  cases direction with
  | ascending => exact inferInstanceAs (Std.TransCmp Value.sortCompare)
  | descending =>
      exact inferInstanceAs (Std.TransCmp fun left right : Value => right.sortCompare left)

theorem compareAll_cons (item : SortItem) (items : List SortItem) (x y : Value)
    (xs ys : List Value) : compareAll (item :: items) (x :: xs) (y :: ys) =
      (item.compare x y).then (compareAll items xs ys) := by
  rw [compareAll]
  cases item.compare x y <;> rfl

theorem compareAll_swap : ∀ (criteria : List SortItem) (xs ys : List Value),
    compareAll criteria xs ys = (compareAll criteria ys xs).swap
  | [], _, _ => rfl
  | _ :: _, [], _ => by simp [compareAll]
  | _ :: _, _ :: _, [] => rfl
  | item :: items, x :: xs, y :: ys => by
    rw [compareAll_cons, compareAll_cons, Ordering.swap_then, ← compareAll_swap items xs ys,
      ← Std.OrientedCmp.eq_swap]

theorem compareAll_then : ∀ (criteria : List SortItem) (xs ys zs : List Value),
    xs.length = criteria.length → ys.length = criteria.length → zs.length = criteria.length →
      (compareAll criteria xs ys).isLE → (compareAll criteria ys zs).isLE →
        compareAll criteria xs zs = (compareAll criteria xs ys).then (compareAll criteria ys zs)
  | [], _, _, _, _, _, _, _, _ => rfl
  | item :: items, x :: xs, y :: ys, z :: zs, first, second, third, left, right => by
    rw [compareAll_cons] at left right
    rw [compareAll_cons, compareAll_cons, compareAll_cons]
    exact then_then_then compare_eq_then
      (compareAll_then items xs ys zs (Nat.succ.inj first) (Nat.succ.inj second)
        (Nat.succ.inj third)) left right

instance (criteria : List SortItem) : Std.TransCmp (compareKeys criteria) where
  eq_swap := compareAll_swap criteria _ _
  isLE_trans {a b c} left right := by
    unfold compareKeys at left right ⊢
    rw [compareAll_then criteria a.1 b.1 c.1 a.2 b.2 c.2 left right, Ordering.isLE_then_iff_and]
    exact ⟨left, .inr right⟩

end SortItem

/-! ## Total preorders -/

/-- A comparison that finds nothing different from itself, tells the same in both directions, and
composes. -/
structure IsTotalPreorder {α : Type} (compare : α → α → Ordering) : Prop where
  /-- Nothing differs from itself. -/
  refl : ∀ a, compare a a = .eq
  /-- The order of two is the reverse of their order the other way round. -/
  swap : ∀ a b, compare a b = (compare b a).swap
  /-- Two steps that do not lead down do not lead down together. -/
  trans : ∀ a b c, compare a b ≠ .gt → compare b c ≠ .gt → compare a c ≠ .gt

theorem IsTotalPreorder.of_transCmp {α : Type} (compare : α → α → Ordering)
    [Std.TransCmp compare] : IsTotalPreorder compare where
  refl _ := Std.ReflCmp.compare_self
  swap _ _ := Std.OrientedCmp.eq_swap
  trans _ _ _ left right :=
    Ordering.isLE_iff_ne_gt.mp <| Std.TransCmp.isLE_trans (Ordering.isLE_iff_ne_gt.mpr left)
      (Ordering.isLE_iff_ne_gt.mpr right)

/-- The order of sorting is a total preorder of all values, in which numbers stand by their exact
values, and any criteria make a total preorder of their sort keys. -/
theorem sortCompare_isTotalPreorder :
    IsTotalPreorder Value.sortCompare ∧
    (∀ (n : Int64) (d : Double), d.isNaN = false →
      Value.sortCompare (.int n) (.float d) = compare ((n.toInt : ℝ) : EReal) d.value) ∧
    (∀ c d : Double, c.isNaN = false → d.isNaN = false →
      Value.sortCompare (.float c) (.float d) = compare c.value d.value) ∧
    ∀ criteria : List SortItem, IsTotalPreorder (SortItem.compareKeys criteria) := by
  refine ⟨.of_transCmp _, fun n d number => ?_, fun c d left right => ?_,
    fun criteria => .of_transCmp _⟩
  · rw [Value.sortCompare, Double.compareInt_eq_compare_value n number]
  · rw [Value.sortCompare, Value.sortDoubles_eq_compare_value left right]

/-- The greatest whole number of 64 bits, the double next to it, and an infinity. -/
theorem sortCompare_isTotalPreorder_limit :
    let limit : Double := ⟨0x43E0000000000000⟩
    let infinity : Double := ⟨0x7FF0000000000000⟩
    limit.isNaN = false ∧ infinity.isNaN = false ∧
      Value.sortCompare (.int Int64.maxValue) (.float limit) =
        compare ((Int64.maxValue.toInt : ℝ) : EReal) limit.value ∧
      Value.sortCompare (.float limit) (.float infinity) = compare limit.value infinity.value ∧
      Value.sortCompare (.int Int64.maxValue) (.float limit) ≠ .gt ∧
      Value.sortCompare (.float limit) (.float infinity) ≠ .gt ∧
      Value.sortCompare (.int Int64.maxValue) (.float infinity) ≠ .gt :=
  have ⟨preorder, mixed, doubles, _⟩ := sortCompare_isTotalPreorder
  have below : Value.sortCompare (.int Int64.maxValue) (.float ⟨0x43E0000000000000⟩) ≠ .gt := by
    decide +kernel
  have above : Value.sortCompare (.float ⟨0x43E0000000000000⟩) (.float ⟨0x7FF0000000000000⟩) ≠
      .gt := by
    decide +kernel
  ⟨by decide, by decide, mixed _ _ (by decide), doubles _ _ (by decide) (by decide), below, above,
    preorder.trans _ _ _ below above⟩

end ShelfLibrary
