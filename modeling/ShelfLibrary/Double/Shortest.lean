import ShelfLibrary.Double.Basic

/-!
# Shortest decimal digits

Of the decimals that read back as a given positive double, the ones with the fewest digits, and of
those the nearest.  The reals that round to a double form an interval around it, whose ends belong
to it when the pattern is even; a grid of decimals meets the interval only if one of the value's two
neighbours on that grid does.
-/

namespace ShelfLibrary

-- Powers are those of the core library, with or without others at hand.
attribute [local instance (high)] instPowNat

/-- A positive decimal: `0.d₁d₂…dₙ · 10^point`, with no zero at either end of the digits. -/
structure Decimal where
  /-- The digits as one whole number. -/
  digits : Nat
  /-- How many digits there are. -/
  width : Nat
  /-- The place of the decimal point, counted from the first digit. -/
  point : Int
deriving DecidableEq, Repr

/-- Which of two equally near decimals is taken. -/
inductive Tie where
  /-- The one whose last digit is even. -/
  | toEven
  /-- The larger one. -/
  | up
deriving DecidableEq, Repr

namespace Double

/-- The quotient `numerator * 10^power / denominator` as a pair of whole numbers. -/
def scale10 (numerator denominator : Nat) (power : Int) : Nat × Nat :=
  if 0 ≤ power then (numerator * 10 ^ power.toNat, denominator)
  else (numerator, denominator * 10 ^ (-power).toNat)

/-- The place `p` with `10^(p-1) ≤ numerator / denominator < 10^p`, for a positive quotient: an
estimate from the binary logarithm, then corrected by at most `fuel` steps either way. -/
def decimalPlace (numerator denominator : Nat) : Int :=
  let estimate := ((numerator.log2 : Int) - denominator.log2) * 30103 / 100000
  let reaches (place : Int) : Bool :=
    let (n, d) := scale10 numerator denominator (-place)
    d ≤ n
  ([estimate + 2, estimate + 1, estimate, estimate - 1].find? reaches).getD (estimate - 2) + 1

/-- Whether twice a quotient, in units, lies in the interval that rounds to a pattern. -/
def roundsTo (pattern : Nat) (numerator denominator : Nat) : Bool :=
  let lower := unitsOfPattern (pattern - 1) + unitsOfPattern pattern
  let upper := unitsOfPattern pattern + unitsOfPattern (pattern + 1)
  if pattern % 2 = 0 then
    lower * denominator ≤ 2 * numerator && 2 * numerator ≤ upper * denominator
  else
    lower * denominator < 2 * numerator && 2 * numerator < upper * denominator

/-- The two whole numbers around a quotient, the nearer one first. -/
def nearerFirst (tie : Tie) (numerator denominator : Nat) : List Nat :=
  let below := numerator / denominator
  let twice := 2 * (numerator % denominator)
  if twice < denominator then [below, below + 1]
  else if denominator < twice then [below + 1, below]
  else match tie with
    | .up => [below + 1, below]
    | .toEven => if below % 2 = 0 then [below, below + 1] else [below + 1, below]

/-- Whether `digits * 10^exponent` reads back as a positive pattern. -/
def readsBack (pattern : Nat) (exponent : Int) (digits : Nat) : Bool :=
  let (numerator, denominator) := scale10 (digits * unitsInOne) 1 exponent
  digits != 0 && roundsTo pattern numerator denominator

/-- The decimal with `width` digits nearest to a positive pattern's value, if one of that width
reads back. -/
def decimalOfWidth? (tie : Tie) (pattern : Nat) (place : Int) (width : Nat) : Option Nat :=
  let (numerator, denominator) := scale10 (unitsOfPattern pattern) unitsInOne (width - place)
  (nearerFirst tie numerator denominator).find? (readsBack pattern (place - width))

/-- The number without the zeros at its end, and how many digits are left of `width`. -/
def dropZeros : Nat → Nat → Nat × Nat
  | digits, 0 => (digits, 0)
  | digits, width + 1 =>
    if digits % 10 = 0 then dropZeros (digits / 10) width else (digits, width + 1)

/-- The shortest decimal that reads back as a positive pattern.  Seventeen digits always do. -/
def shortestOfPattern (tie : Tie) (pattern : Nat) : Decimal :=
  let place := decimalPlace (unitsOfPattern pattern) unitsInOne
  let found := (List.range 17).findSome? fun n =>
    (decimalOfWidth? tie pattern place (n + 1)).map fun digits => (digits, n + 1)
  let (digits, width) := found.getD (0, 1)
  if digits = 10 ^ width then ⟨1, 1, place + 1⟩
  else
    let (digits, width) := dropZeros digits width
    ⟨digits, width, place⟩

end Double

end ShelfLibrary
