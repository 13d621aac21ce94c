/-!
# Doubles

A double is a 64-bit binary floating point word, taken as its bits.  Every operation is exact: the
value of a word is a whole number of units of `2^-1074`, the least positive double, and comparison,
rounding and printing work on whole numbers.
-/

namespace ShelfLibrary

-- Powers are those of the core library, with or without others at hand.
attribute [local instance (high)] instPowNat

/-- A binary floating point number of 64 bits: sign, eleven bits of exponent, 52 of fraction. -/
structure Double where
  /-- The word itself. -/
  bits : UInt64
deriving DecidableEq, Repr, Inhabited

namespace Double

/-- Whether the sign bit is set. -/
def negative (d : Double) : Bool :=
  2 ^ (63 : Nat) ≤ d.bits.toNat

/-- The bits below the sign. -/
def pattern (d : Double) : Nat :=
  d.bits.toNat % 2 ^ (63 : Nat)

/-- The exponent field. -/
def exponentField (d : Double) : Nat :=
  d.pattern / 2 ^ (52 : Nat)

/-- The fraction field. -/
def fraction (d : Double) : Nat :=
  d.pattern % 2 ^ (52 : Nat)

/-- The pattern of infinity; the patterns below it are the finite values in order. -/
def infinityPattern : Nat := 2047 * 2 ^ (52 : Nat)

/-- Whether the word is no number. -/
def isNaN (d : Double) : Bool :=
  infinityPattern < d.pattern

/-- Whether the word is a number other than the infinities. -/
def isFinite (d : Double) : Bool :=
  d.pattern < infinityPattern

/-- How many units of `2^-1074` there are in one. -/
def unitsInOne : Nat := 2 ^ (1074 : Nat)

/-- The size of the pattern's value in units of `2^-1074`; infinity counts as `2^1024`. -/
def unitsOfPattern (pattern : Nat) : Nat :=
  if pattern < 2 ^ (52 : Nat) then pattern
  else (2 ^ (52 : Nat) + pattern % 2 ^ (52 : Nat)) * 2 ^ (pattern / 2 ^ (52 : Nat) - 1)

/-- The absolute value in units of `2^-1074`. -/
def magnitude (d : Double) : Nat :=
  unitsOfPattern d.pattern

/-- The value in units of `2^-1074`. -/
def units (d : Double) : Int :=
  if d.negative then -(d.magnitude : Int) else d.magnitude

/-- The double of a sign and a pattern. -/
def ofPattern (negative : Bool) (pattern : Nat) : Double :=
  ⟨UInt64.ofNat (if negative then 2 ^ (63 : Nat) + pattern else pattern)⟩

/-- Positive zero. -/
def zero : Double := ⟨0⟩

/-- The number without its sign. -/
def abs (d : Double) : Double :=
  ofPattern false d.pattern

/-- The order of two numbers; a word that is no number has none, and the two zeros are equal. -/
def compare? (a b : Double) : Option Ordering :=
  if a.isNaN || b.isNaN then none else some (compare a.units b.units)

/-- Equality of numbers: no number differs from itself, and the two zeros are equal. -/
def same (a b : Double) : Bool :=
  a.compare? b == some .eq

/-- Whether the number is other than zero; a word that is no number counts as such. -/
def isNonzero (d : Double) : Bool :=
  d.isNaN || d.magnitude != 0

end Double

end ShelfLibrary
