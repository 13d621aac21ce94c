import ShelfLibrary.Text.Number
import ShelfLibrary.Time.Instant

/-!
# Writing instants

Date and time joined by `T`, the fewest of 0, 3, 6 or 9 fraction digits that lose nothing, and the
mark of universal time.  Years outside four digits carry a sign.
-/

namespace ShelfLibrary

namespace Instant

/-- A year of four digits, or a sign and at least four. -/
def yearText (year : Int) : String :=
  if 0 ≤ year && year ≤ 9999 then paddedText 4 year.toNat
  else (if year < 0 then "-" else "+") ++ paddedText 4 year.natAbs

/-- The fraction of a second after its point, or nothing. -/
def fractionText (nanos : Nat) : String :=
  if nanos = 0 then ""
  else if nanos % 1000000 = 0 then "." ++ paddedText 3 (nanos / 1000000)
  else if nanos % 1000 = 0 then "." ++ paddedText 6 (nanos / 1000)
  else "." ++ paddedText 9 nanos

/-- The text of an instant with a given mark of universal time; an inserted second is number 60. -/
def text (mark : String) (instant : Instant) : String :=
  let date := Date.ofDay instant.day
  let time := (instant.seconds - instant.day * 86400).toNat
  let second := time % 60 + instant.nanos / 1000000000
  yearText date.year ++ "-" ++ paddedText 2 date.month ++ "-" ++ paddedText 2 date.day ++ "T" ++
    paddedText 2 (time / 3600) ++ ":" ++ paddedText 2 (time / 60 % 60) ++ ":" ++
    paddedText 2 second ++ fractionText (instant.nanos % 1000000000) ++ mark

/-- The text with a numeric offset. -/
def offsetText (instant : Instant) : String :=
  instant.text "+00:00"

/-- The text with the letter for universal time. -/
def zuluText (instant : Instant) : String :=
  instant.text "Z"

end Instant

end ShelfLibrary
