import ShelfLibrary.Pattern.CharSet

/-!
# Patterns

A pattern describes texts.  Matching asks whether any part of a text fits: a set of positions is
carried through the pattern, from where a fit may begin to where it may end.
-/

namespace ShelfLibrary

namespace Pattern

/-- A condition on a position between two characters. -/
inductive Anchor where
  /-- The start of the text. -/
  | textStart
  /-- The end of the text. -/
  | textEnd
  /-- The start of a line. -/
  | lineStart
  /-- The end of a line. -/
  | lineEnd
  /-- A word begins or ends. -/
  | wordEdge (unicode : Bool)
  /-- No word begins or ends. -/
  | noWordEdge (unicode : Bool)
  /-- A word begins. -/
  | wordStart (unicode : Bool)
  /-- A word ends. -/
  | wordEnd (unicode : Bool)
  /-- No word character stands before. -/
  | wordStartHalf (unicode : Bool)
  /-- No word character stands after. -/
  | wordEndHalf (unicode : Bool)

end Pattern

/-- A description of texts. -/
inductive Pattern where
  /-- The empty text. -/
  | empty
  /-- One character of a set. -/
  | char (set : Pattern.CharSet)
  /-- The empty text at certain positions. -/
  | anchor (condition : Pattern.Anchor)
  /-- One text after another. -/
  | seq (first second : Pattern)
  /-- A text of either kind. -/
  | either (left right : Pattern)
  /-- A text of one kind a number of times over, without upper bound if `most` is absent. -/
  | repeated (body : Pattern) (least : Nat) (most : Option Nat)

namespace Pattern

/-- Whether a word character stands at a position. -/
def isWordAt (unicode : Bool) (text : Array Char) (position : Nat) : Bool :=
  match text[position]? with
  | some c => (CharSet.word unicode).contains c
  | none => false

/-- Whether a word character stands before a position. -/
def isWordBefore (unicode : Bool) (text : Array Char) (position : Nat) : Bool :=
  position != 0 && isWordAt unicode text (position - 1)

/-- Whether a condition holds at a position of a text. -/
def Anchor.holds (text : Array Char) (position : Nat) : Anchor → Bool
  | .textStart => position == 0
  | .textEnd => position == text.size
  | .lineStart => position == 0 || text[position - 1]? == some '\n'
  | .lineEnd => position == text.size || text[position]? == some '\n'
  | .wordEdge unicode => isWordBefore unicode text position != isWordAt unicode text position
  | .noWordEdge unicode => isWordBefore unicode text position == isWordAt unicode text position
  | .wordStart unicode => !isWordBefore unicode text position && isWordAt unicode text position
  | .wordEnd unicode => isWordBefore unicode text position && !isWordAt unicode text position
  | .wordStartHalf unicode => !isWordBefore unicode text position
  | .wordEndHalf unicode => !isWordAt unicode text position

/-- The positions of both lists, each once. -/
def merge (left right : List Nat) : List Nat :=
  left ++ right.filter fun position => !left.contains position

/-- The positions that up to `rounds` steps reach from those in `frontier`, and those already
`reached`.  A round goes on from the new positions only. -/
def reach (step : List Nat → List Nat) : Nat → List Nat → List Nat → List Nat
  | 0, _, reached => reached
  | rounds + 1, frontier, reached =>
    match (step frontier).filter fun position => !reached.contains position with
    | [] => reached
    | fresh => reach step rounds fresh (reached ++ fresh)

/-- `rounds` steps from a list of positions. -/
def iterate (step : List Nat → List Nat) : Nat → List Nat → List Nat
  | 0, positions => positions
  | rounds + 1, positions =>
    match positions with
    | [] => []
    | positions => iterate step rounds (step positions)

/-- The positions where a fit may end that begins at one of the given positions. -/
def advance (text : Array Char) : Pattern → List Nat → List Nat
  | .empty, starts => starts
  | .char set, starts =>
    starts.filterMap fun position =>
      match text[position]? with
      | some c => if set.contains c then some (position + 1) else none
      | none => none
  | .anchor condition, starts => starts.filter fun position => condition.holds text position
  | .seq first second, starts => advance text second (advance text first starts)
  | .either left right, starts => merge (advance text left starts) (advance text right starts)
  | .repeated body least most, starts =>
    let base := iterate (advance text body) least starts
    let rounds := match most with
      | some most => most - least
      | none => text.size + 1
    reach (advance text body) rounds base base

/-- Whether some part of a text fits the pattern. -/
def isMatch (pattern : Pattern) (text : String) : Bool :=
  let chars := text.toList.toArray
  !(advance chars pattern (List.range (chars.size + 1))).isEmpty

end Pattern

end ShelfLibrary
