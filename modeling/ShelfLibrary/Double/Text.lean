import ShelfLibrary.Double.Shortest
import ShelfLibrary.Text.Number

/-!
# The text of doubles

A layout fixes what the shortest digits leave open: where positional notation ends, what follows a
whole number, and which way ties go.
-/

namespace ShelfLibrary

/-- How the digits of a finite double are written out. -/
structure Double.Layout where
  /-- Which of two equally near decimals is taken. -/
  tie : Tie
  /-- The places of the decimal point that are written without an exponent; all, if absent. -/
  places : Option (Int × Int)
  /-- What follows a whole number in positional notation. -/
  whole : String

namespace Double

namespace Layout

/-- Plain digits in every range, and nothing after a whole number. -/
def plain : Layout := ⟨.up, none, ""⟩

/-- Positional from `10^-5` up to `10^16`, a point in every number, and a signed exponent beyond. -/
def json : Layout := ⟨.toEven, some (-4, 16), ".0"⟩

end Layout

/-- `count` zeros. -/
def zeros (count : Nat) : String :=
  String.ofList (List.replicate count '0')

/-- Digits and point without an exponent. -/
def positionalText (layout : Layout) (decimal : Decimal) : String :=
  let digits := natText decimal.digits
  if decimal.point ≤ 0 then "0." ++ zeros (-decimal.point).toNat ++ digits
  else
    let place := decimal.point.toNat
    if decimal.width ≤ place then digits ++ zeros (place - decimal.width) ++ layout.whole
    else
      let chars := digits.toList
      String.ofList (chars.take place) ++ "." ++ String.ofList (chars.drop place)

/-- One digit before the point and a signed exponent. -/
def scientificText (decimal : Decimal) : String :=
  let chars := (natText decimal.digits).toList
  let mantissa :=
    match chars with
    | [] => "0"
    | [digit] => String.ofList [digit]
    | digit :: rest => String.ofList (digit :: '.' :: rest)
  let exponent := decimal.point - 1
  mantissa ++ "e" ++ (if exponent < 0 then "-" else "+") ++ natText exponent.natAbs

/-- The text of a number other than an infinity. -/
def finiteText (layout : Layout) (d : Double) : String :=
  let unsigned :=
    if d.pattern = 0 then "0" ++ layout.whole
    else
      let decimal := shortestOfPattern layout.tie d.pattern
      match layout.places with
      | none => positionalText layout decimal
      | some (low, high) =>
        if low ≤ decimal.point && decimal.point ≤ high then positionalText layout decimal
        else scientificText decimal
  if d.negative then "-" ++ unsigned else unsigned

/-- The text of any double; a word that is no number is written `NaN` without a sign. -/
def text (layout : Layout) (d : Double) : String :=
  if d.isNaN then "NaN"
  else if d.isFinite then finiteText layout d
  else if d.negative then "-inf" else "inf"

end Double

end ShelfLibrary
