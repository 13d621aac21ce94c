/-!
# Numbers in texts

Whole numbers as decimal or hexadecimal digits.  Letters of either case are read as digits, and
small ones are written.
-/

namespace ShelfLibrary

/-- The digits of a number to a base, with zeros before them up to a width. -/
def paddedDigits (base width n : Nat) : List Char :=
  let digits := Nat.toDigits base n
  List.replicate (width - digits.length) '0' ++ digits

/-- The decimal digits of a natural number. -/
def natText (n : Nat) : String :=
  String.ofList (Nat.toDigits 10 n)

/-- The decimal digits of a natural number with zeros before them up to a width. -/
def paddedText (width n : Nat) : String :=
  String.ofList (paddedDigits 10 width n)

/-- The decimal digits of a whole number after its sign, if negative. -/
def intText (n : Int) : String :=
  if n < 0 then "-" ++ natText n.natAbs else natText n.natAbs

/-- The number of decimal digits. -/
def natOfDigits (digits : List Char) : Nat :=
  digits.foldl (fun n c => n * 10 + (c.toNat - '0'.toNat)) 0

namespace Hexadecimal

/-- The value of a digit. -/
def digit? (c : Char) : Option Nat :=
  if '0' ≤ c && c ≤ '9' then some (c.toNat - '0'.toNat)
  else if 'a' ≤ c && c ≤ 'f' then some (c.toNat - 'a'.toNat + 10)
  else if 'A' ≤ c && c ≤ 'F' then some (c.toNat - 'A'.toNat + 10)
  else none

/-- The number of some digits, of which there has to be one. -/
def number? (digits : List Char) : Option Nat :=
  if digits.isEmpty then none
  else digits.foldlM (fun n c => (digit? c).map fun d => n * 16 + d) 0

/-- The text of a number with zeros before its digits up to a width. -/
def text (width n : Nat) : String :=
  String.ofList (paddedDigits 16 width n)

end Hexadecimal

end ShelfLibrary
