import ShelfLibrary.Double.Basic

/-!
# Rounding to doubles

The double nearest to a quotient of whole numbers, a tie going to the even pattern.  Patterns below
infinity are consecutive numbers in the order of their values, so that rounding computes a pattern.
-/

namespace ShelfLibrary

-- Powers are those of the core library, with or without others at hand.
attribute [local instance (high)] instPowNat

/-- The whole number nearest to a quotient, a half going to the even neighbour. -/
def roundHalfEven (numerator denominator : Nat) : Nat :=
  let quotient := numerator / denominator
  let twice := 2 * (numerator % denominator)
  if twice < denominator then quotient
  else if denominator < twice then quotient + 1
  else quotient + quotient % 2

namespace Double

/-- The pattern nearest to a quotient in units; a quotient beyond the largest finite value gives
infinity. -/
def patternOfUnits (numerator denominator : Nat) : Nat :=
  let shift := (numerator / denominator).log2 - 52
  min infinityPattern (shift * 2 ^ (52 : Nat) + roundHalfEven numerator (denominator * 2 ^ shift))

/-- The pattern nearest to a quotient. -/
def nearestPattern (numerator denominator : Nat) : Nat :=
  patternOfUnits (numerator * unitsInOne) denominator

/-- The double nearest to a quotient with a sign. -/
def nearest (negative : Bool) (numerator denominator : Nat) : Double :=
  ofPattern negative (nearestPattern numerator denominator)

/-- The double nearest to a whole number. -/
def ofInt (n : Int) : Double :=
  nearest (n < 0) n.natAbs 1

/-- The order of a whole number and a double by their exact values; what is no number comes last.
A double beyond the numbers of 64 bits is settled by its side; another is cut to a whole number, and
what was cut off decides between equal ones. -/
def compareInt (n : Int64) (d : Double) : Ordering :=
  let limit : Int := 2 ^ (63 : Nat) * unitsInOne
  if d.isNaN || limit ≤ d.units then .lt
  else if d.units < -limit then .gt
  else
    let whole := d.units.tdiv unitsInOne
    match compare n (Int64.ofInt whole) with
    | .eq => compare 0 (d.units - whole * unitsInOne)
    | other => other

/-- The double nearest to `digits * 10^exponent`, or nothing beyond the finite doubles.  Exponents
that no double reaches are settled by the number of digits, before any power is computed. -/
def ofDecimal? (negative : Bool) (digits : Nat) (exponent : Int) : Option Double :=
  let width : Int := digits.log2 / 3 + 1
  let pattern :=
    if digits = 0 || exponent + width < -400 then 0
    else if 400 < exponent + width / 2 then infinityPattern
    else if 0 ≤ exponent then nearestPattern (digits * 10 ^ exponent.toNat) 1
    else nearestPattern digits (10 ^ (-exponent).toNat)
  if pattern = infinityPattern then none else some (ofPattern negative pattern)

end Double

end ShelfLibrary
