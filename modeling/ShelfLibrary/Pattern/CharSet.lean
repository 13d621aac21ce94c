import ShelfLibrary.Pattern.CaseFold
import ShelfLibrary.Pattern.Property
import ShelfLibrary.Text.Blank

/-!
# Sets of characters

A character class of a pattern as an expression over ranges and properties.
-/

namespace ShelfLibrary.Pattern

/-- A set of characters. -/
inductive CharSet where
  /-- No character. -/
  | none
  /-- The characters whose code points lie between two, both included. -/
  | span (low high : Nat)
  /-- The characters with a property. -/
  | property (boundaries : Text.Boundaries)
  /-- White space. -/
  | blank
  /-- The characters of either set. -/
  | union (left right : CharSet)
  /-- The characters of both sets. -/
  | inter (left right : CharSet)
  /-- The characters outside a set. -/
  | complement (set : CharSet)
  /-- The characters that differ from one of the set in case only. -/
  | anyCase (set : CharSet)

namespace CharSet

/-- The characters that differ from a given one in case only, and the character itself. -/
def caseVariants (c : Char) : List Char :=
  let least := foldCase c
  let variants := foldRuns.filterMap fun run =>
    let n := least.toNat + run.distance
    if run.first ≤ n && n ≤ run.last && (n - run.first) % run.step = 0 then some (Char.ofNat n)
    else Option.none
  c :: least :: variants

/-- Whether a character is in the set. -/
def contains : CharSet → Char → Bool
  | .none, _ => false
  | .span low high, c => low ≤ c.toNat && c.toNat ≤ high
  | .property boundaries, c => boundaries.contains c
  | .blank, c => Text.isBlank c
  | .union left right, c => left.contains c || right.contains c
  | .inter left right, c => left.contains c && right.contains c
  | .complement set, c => !set.contains c
  | .anyCase set, c => (caseVariants c).any set.contains

/-- One character. -/
def single (c : Char) : CharSet :=
  .span c.toNat c.toNat

/-- The characters of any of the spans. -/
def spans (ranges : List (Char × Char)) : CharSet :=
  ranges.foldr (fun range rest => .union (.span range.1.toNat range.2.toNat) rest) .none

/-- The characters of ASCII. -/
def ascii : CharSet := .span 0 0x7F

/-- The characters of a set, and those of ASCII that differ from one of its members there in case
only. -/
def anyAsciiCase (set : CharSet) : CharSet :=
  .union set (.inter ascii (.anyCase (.inter ascii set)))

/-- The characters of one set outside another. -/
def diff (left right : CharSet) : CharSet :=
  .inter left (.complement right)

/-- The characters of exactly one of two sets. -/
def symmDiff (left right : CharSet) : CharSet :=
  .union (diff left right) (diff right left)

/-- The named classes of ASCII characters. -/
def ascii? : String → Option CharSet
  | "alnum" => some (spans [('0', '9'), ('A', 'Z'), ('a', 'z')])
  | "alpha" => some (spans [('A', 'Z'), ('a', 'z')])
  | "ascii" => some (spans [('\x00', '\x7f')])
  | "blank" => some (spans [('\t', '\t'), (' ', ' ')])
  | "cntrl" => some (spans [('\x00', '\x1f'), ('\x7f', '\x7f')])
  | "digit" => some (spans [('0', '9')])
  | "graph" => some (spans [('!', '~')])
  | "lower" => some (spans [('a', 'z')])
  | "print" => some (spans [(' ', '~')])
  | "punct" => some (spans [('!', '/'), (':', '@'), ('[', '\x60'), ('\x7b', '~')])
  | "space" => some (spans [('\t', '\r'), (' ', ' ')])
  | "upper" => some (spans [('A', 'Z')])
  | "word" => some (spans [('0', '9'), ('A', 'Z'), ('_', '_'), ('a', 'z')])
  | "xdigit" => some (spans [('0', '9'), ('A', 'F'), ('a', 'f')])
  | _ => Option.none

/-- Decimal digits, of any script or of ASCII. -/
def digit (unicode : Bool) : CharSet :=
  if unicode then .property decimalDigitBoundaries else spans [('0', '9')]

/-- White space, of any script or of ASCII. -/
def space (unicode : Bool) : CharSet :=
  if unicode then .blank else spans [('\t', '\r'), (' ', ' ')]

/-- Word characters, of any script or of ASCII. -/
def word (unicode : Bool) : CharSet :=
  if unicode then .property wordBoundaries
  else spans [('0', '9'), ('A', 'Z'), ('_', '_'), ('a', 'z')]

/-- A property by its name, in which case, blanks, underscores and hyphens do not matter. -/
def property? (name : String) : Option CharSet :=
  let plain := name.toList.filterMap fun c =>
    if c == ' ' || c == '_' || c == '-' then Option.none else some c.toLower
  match String.ofList plain with
  | "any" => some (.span 0 0x10FFFF)
  | "ascii" => some ascii
  | "l" => some (.property letterBoundaries)
  | "letter" => some (.property letterBoundaries)
  | "lu" => some (.property uppercaseLetterBoundaries)
  | "uppercaseletter" => some (.property uppercaseLetterBoundaries)
  | "ll" => some (.property lowercaseLetterBoundaries)
  | "lowercaseletter" => some (.property lowercaseLetterBoundaries)
  | "n" => some (.property numberBoundaries)
  | "number" => some (.property numberBoundaries)
  | "nd" => some (.property decimalDigitBoundaries)
  | "decimalnumber" => some (.property decimalDigitBoundaries)
  | "whitespace" => some .blank
  | _ => Option.none

end CharSet

end ShelfLibrary.Pattern
