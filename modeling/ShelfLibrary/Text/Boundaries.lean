/-!
# Character classes as boundaries

A class of characters is given by the code points at which membership changes, in increasing order:
the first begins the class, the second is past its first run, and so on.
-/

namespace ShelfLibrary.Text

/-- The code points at which membership in a class changes. -/
abbrev Boundaries := List Nat

/-- A code point is in the class when an odd number of boundaries lie at or before it. -/
def Boundaries.hasCode : Boundaries → Nat → Bool
  | [], _ => false
  | boundary :: rest, code => if code < boundary then false else !hasCode rest code

/-- Whether a character is in the class. -/
def Boundaries.contains (boundaries : Boundaries) (c : Char) : Bool :=
  boundaries.hasCode c.toNat

end ShelfLibrary.Text
