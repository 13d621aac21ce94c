import ShelfLibrary.Pattern.Basic
import ShelfLibrary.Text.Number

/-!
# Reading patterns

The notation of patterns: literal characters, classes in brackets, anchors, groups with names and
flags, alternatives and repetitions.  What has no meaning in the notation, such as looking around
or referring back to a group, makes the whole text no pattern.
-/

namespace ShelfLibrary.Pattern

-- Powers are those of the core library, with or without others at hand.
attribute [local instance (high)] instPowNat

/-- The modes in which a part of a pattern is read. -/
structure Flags where
  /-- Case does not matter. -/
  ignoreCase : Bool
  /-- The line anchors also hold inside the text. -/
  multiLine : Bool
  /-- The dot also stands for a line end. -/
  dotAll : Bool
  /-- Classes cover all scripts and not ASCII alone. -/
  unicode : Bool
  /-- Blanks and comments between the parts do not count. -/
  verbose : Bool

/-- The modes at the start of a pattern. -/
def Flags.start : Flags := ⟨false, false, false, true, false⟩

/-- The modes after one of them is switched; nothing for a letter that names none. -/
def Flags.switch? (flags : Flags) (on : Bool) : Char → Option Flags
  | 'i' => some { flags with ignoreCase := on }
  | 'm' => some { flags with multiLine := on }
  | 's' => some { flags with dotAll := on }
  | 'u' => some { flags with unicode := on }
  | 'x' => some { flags with verbose := on }
  | 'U' => some flags
  | _ => none

/-- A set made blind to case where the mode asks for it. -/
def Flags.fold (flags : Flags) (set : CharSet) : CharSet :=
  if !flags.ignoreCase then set
  else if flags.unicode then .anyCase set
  else .anyAsciiCase set

/-- A class or, if it is `negated`, its complement; case is settled before.  Outside the mode for
all scripts there is no complement, as it would hold parts of characters. -/
def Flags.close? (flags : Flags) (negated : Bool) (set : CharSet) : Option CharSet :=
  if !negated then some (flags.fold set)
  else if flags.unicode then some (.complement (flags.fold set))
  else none

/-- The modes after a run of letters, with the characters that follow; `seen` holds the letters so
far, of which none may come twice, nor a hyphen last. -/
def readFlags (on : Bool) (seen : List Char) (flags : Flags) :
    List Char → Option (Flags × Char × List Char)
  | [] => none
  | c :: rest =>
    if c == ')' || c == ':' then
      if seen.head? == some '-' || (c == ')' && seen.isEmpty) then none else some (flags, c, rest)
    else if seen.contains c then none
    else if c == '-' then readFlags false (c :: seen) flags rest
    else match flags.switch? on c with
      | none => none
      | some flags => readFlags on (c :: seen) flags rest

/-- The character with a code point, if there is one. -/
def charOfCode? (code : Nat) : Option Char :=
  if code < 0xD800 || (0xDFFF < code && code < 0x110000) then some (Char.ofNat code) else none

/-- The character of a hexadecimal escape after its letter: `width` digits, or any number of them in
braces. -/
def readHex (width : Nat) : List Char → Option (Char × List Char)
  | '\x7b' :: rest => do
    let digits := rest.takeWhile (· != '\x7d')
    match rest.drop digits.length with
    | '\x7d' :: rest => return (← charOfCode? (← Hexadecimal.number? digits), rest)
    | _ => none
  | rest => do
    let digits := rest.take width
    if digits.length < width then none
    else return (← charOfCode? (← Hexadecimal.number? digits), rest.drop width)

/-- The set that an escape with a property's name denotes, after its letter; only the mode for all
scripts has properties. -/
def readProperty (flags : Flags) (negated : Bool) : List Char → Option (CharSet × List Char)
  | '\x7b' :: rest => do
    let inside := rest.takeWhile (· != '\x7d')
    match rest.drop inside.length with
    | '\x7d' :: rest =>
      match inside with
      | '^' :: inside => return (← named (!negated) inside, rest)
      | inside => return (← named negated inside, rest)
    | _ => none
  | c :: rest => do return (← named negated [c], rest)
  | [] => none
where
  /-- The set of a name. -/
  named (negated : Bool) (name : List Char) : Option CharSet := do
    let set ← CharSet.property? (String.ofList name)
    if flags.unicode then flags.close? negated set else none

/-- What an escape stands for. -/
inductive Escape where
  /-- One character. -/
  | char (c : Char)
  /-- One character of a set. -/
  | set (s : CharSet)
  /-- A condition on a position. -/
  | anchor (a : Anchor)

/-- A sign that may stand after a backslash for itself. -/
def isEscapable (c : Char) : Bool :=
  c.toNat < 128 && !c.isAlphanum && c != '<' && c != '>'

/-- A named kind of word boundary in braces. -/
def readWordEdge (unicode : Bool) : List Char → Anchor × List Char
  | '\x7b' :: rest =>
    let inside := rest.takeWhile (· != '\x7d')
    let after := rest.drop (inside.length + 1)
    match String.ofList inside with
    | "start" => (.wordStart unicode, after)
    | "end" => (.wordEnd unicode, after)
    | "start-half" => (.wordStartHalf unicode, after)
    | "end-half" => (.wordEndHalf unicode, after)
    | _ => (.wordEdge unicode, '\x7b' :: rest)
  | rest => (.wordEdge unicode, rest)

/-- An escape after its backslash. -/
def readEscape (flags : Flags) : List Char → Option (Escape × List Char)
  | [] => none
  | c :: rest =>
    match c with
    | 'd' => some (.set (.digit flags.unicode), rest)
    | 's' => some (.set (.space flags.unicode), rest)
    | 'w' => some (.set (.word flags.unicode), rest)
    | 'D' => (flags.close? true (.digit flags.unicode)).map fun set => (.set set, rest)
    | 'S' => (flags.close? true (.space flags.unicode)).map fun set => (.set set, rest)
    | 'W' => (flags.close? true (.word flags.unicode)).map fun set => (.set set, rest)
    | 'p' => (readProperty flags false rest).map fun (set, rest) => (.set set, rest)
    | 'P' => (readProperty flags true rest).map fun (set, rest) => (.set set, rest)
    | 'x' => (readHex 2 rest).bind fun (c, rest) =>
      if flags.unicode || c.toNat < 128 then some (.char c, rest) else none
    | 'u' => (readHex 4 rest).map fun (c, rest) => (.char c, rest)
    | 'U' => (readHex 8 rest).map fun (c, rest) => (.char c, rest)
    | 'a' => some (.char '\x07', rest)
    | 'f' => some (.char '\x0c', rest)
    | 't' => some (.char '\t', rest)
    | 'n' => some (.char '\n', rest)
    | 'r' => some (.char '\r', rest)
    | 'v' => some (.char '\x0b', rest)
    | 'A' => some (.anchor .textStart, rest)
    | 'z' => some (.anchor .textEnd, rest)
    | 'b' => let (edge, rest) := readWordEdge flags.unicode rest; some (.anchor edge, rest)
    | 'B' => if flags.unicode then some (.anchor (.noWordEdge true), rest) else none
    | '<' => some (.anchor (.wordStart flags.unicode), rest)
    | '>' => some (.anchor (.wordEnd flags.unicode), rest)
    | c => if isEscapable c then some (.char c, rest) else none

/-- The characters after blanks and comments, where the mode skips them. -/
def skipVerbose (flags : Flags) : Nat → List Char → List Char
  | 0, cs => cs
  | fuel + 1, cs =>
    if !flags.verbose then cs
    else match cs.dropWhile Text.isBlank with
      | '#' :: rest => skipVerbose flags fuel (rest.dropWhile (· != '\n'))
      | rest => rest

/-- A named class of ASCII characters after its opening bracket, and whether it is negated. -/
def readAsciiClass : List Char → Option (Bool × CharSet × List Char)
  | ':' :: rest =>
    let (negated, rest) := match rest with
      | '^' :: rest => (true, rest)
      | rest => (false, rest)
    let name := rest.takeWhile (· != ':')
    match rest.drop name.length with
    | ':' :: ']' :: rest =>
      (CharSet.ascii? (String.ofList name)).map fun set => (negated, set, rest)
    | _ => none
  | _ => none

/-- One member of a class: a character or the set of an escape. -/
def readMember (flags : Flags) : List Char → Option ((Char ⊕ CharSet) × List Char)
  | [] => none
  | '\\' :: rest =>
    match readEscape flags rest with
    | some (.char c, rest) => some (.inl c, rest)
    | some (.set set, rest) => some (.inr set, rest)
    | _ => none
  | c :: rest => some (.inl c, rest)

/-- A member of a class or a range between two characters. -/
def readRange (flags : Flags) (cs : List Char) : Option (CharSet × List Char) := do
  let (first, rest) ← readMember flags cs
  let alone : CharSet := match first with
    | .inl c => .single c
    | .inr set => set
  match rest with
  | '-' :: next :: _ =>
    if next == ']' || next == '-' then return (alone, rest)
    else
      let (last, rest) ← readMember flags (rest.drop 1)
      match first, last with
      | .inl low, .inl high =>
        if low ≤ high then return (.span low.toNat high.toNat, rest) else none
      | _, _ => none
  | _ => return (alone, rest)

/-- The ways to combine two parts of a class. -/
def classOperator? : List Char → Option ((CharSet → CharSet → CharSet) × List Char)
  | '&' :: '&' :: rest => some (.inter, rest)
  | '-' :: '-' :: rest => some (CharSet.diff, rest)
  | '~' :: '~' :: rest => some (CharSet.symmDiff, rest)
  | _ => none

mutual

/-- A class after its opening bracket. -/
def readClass (flags : Flags) : Nat → List Char → Option (CharSet × List Char)
  | 0, _ => none
  | fuel + 1, cs => do
    let (negated, rest) := match cs with
      | '^' :: rest => (true, rest)
      | rest => (false, rest)
    let hyphens := rest.takeWhile (· == '-')
    let rest := rest.drop hyphens.length
    let start : CharSet := if hyphens.isEmpty then .none else .single '-'
    let (start, rest) := match rest with
      | ']' :: after => if hyphens.isEmpty then (CharSet.single ']', after) else (start, rest)
      | _ => (start, rest)
    let (set, rest) ← readMembers flags fuel id start rest
    return (← flags.close? negated set, rest)

/-- The members of a class up to its closing bracket: `combine` joins what came before an operator
with the members since, which are in `set`. -/
def readMembers (flags : Flags) : Nat → (CharSet → CharSet) → CharSet → List Char →
    Option (CharSet × List Char)
  | 0, _, _, _ => none
  | fuel + 1, combine, set, cs =>
    match skipVerbose flags cs.length cs with
    | [] => none
    | ']' :: rest => some (combine set, rest)
    | '[' :: rest =>
      match readAsciiClass rest with
      | some (negated, inner, rest) =>
        match flags.close? negated inner with
        | some inner => readMembers flags fuel combine (.union set inner) rest
        | none => none
      | none =>
        match readClass flags fuel rest with
        | some (inner, rest) => readMembers flags fuel combine (.union set inner) rest
        | none => none
    | cs =>
      match classOperator? cs with
      | some (join, rest) =>
        let left := flags.fold (combine set)
        readMembers flags fuel (fun right => join left (flags.fold right)) .none rest
      | none =>
        match readRange flags cs with
        | some (inner, rest) => readMembers flags fuel combine (.union set inner) rest
        | none => none

end

/-- A decimal number between blanks, below `2^32`. -/
def readCount (cs : List Char) : Option (Nat × List Char) :=
  let cs := cs.dropWhile Text.isBlank
  let digits := cs.takeWhile Char.isDigit
  let value := natOfDigits digits
  if digits.isEmpty || 2 ^ (32 : Nat) ≤ value then none
  else some (value, (cs.drop digits.length).dropWhile Text.isBlank)

/-- The bounds of a repetition after the opening brace. -/
def readBounds (cs : List Char) : Option ((Nat × Option Nat) × List Char) := do
  let (least, rest) ← readCount cs
  match rest with
  | '\x7d' :: rest => return ((least, some least), rest)
  | ',' :: '\x7d' :: rest => return ((least, none), rest)
  | ',' :: rest => do
    let (most, rest) ← readCount rest
    match rest with
    | '\x7d' :: rest => if least ≤ most then return ((least, some most), rest) else none
    | _ => none
  | _ => none

/-- Whether characters are the name of a group: letters, digits and a few signs, no digit first. -/
def isGroupName : List Char → Bool
  | [] => false
  | first :: rest =>
    let isFirst (c : Char) : Bool := c == '_' || (CharSet.property letterBoundaries).contains c
    isFirst first &&
      rest.all fun c => isFirst c || c.isDigit || c == '.' || c == '[' || c == ']'

/-- The beginning of a group after its opening parenthesis. -/
inductive GroupHead where
  /-- A group whose contents are read in the given modes, with its name, if it has one. -/
  | group (flags : Flags) (name : Option String)
  /-- Modes for the rest of the group around. -/
  | modes (flags : Flags)

/-- What follows an opening parenthesis. -/
def readGroupHead (flags : Flags) : List Char → Option (GroupHead × List Char)
  | '?' :: 'P' :: '<' :: rest => named rest
  | '?' :: '<' :: rest =>
    match rest with
    | '=' :: _ => none
    | '!' :: _ => none
    | rest => named rest
  | '?' :: rest =>
    match readFlags true [] flags rest with
    | some (flags, ':', rest) => some (.group flags none, rest)
    | some (flags, _, rest) => some (.modes flags, rest)
    | none => none
  | rest => some (.group flags none, rest)
where
  /-- The name of a group up to its closing bracket. -/
  named (rest : List Char) : Option (GroupHead × List Char) :=
    let name := rest.takeWhile (· != '>')
    match rest.drop name.length with
    | '>' :: rest =>
      if isGroupName name then some (.group flags (some (String.ofList name)), rest) else none
    | _ => none

/-- Parts one after another; the list has the last one first. -/
def joinParts (parts : List (Option Pattern)) : Pattern :=
  parts.foldl (fun rest part => match part with
    | some first => .seq first rest
    | none => rest) .empty

/-- A pattern with the alternatives before it. -/
def joinAlternatives (before : Option Pattern) (last : Pattern) : Pattern :=
  match before with
  | some first => .either first last
  | none => last

/-- The characters after the mark of a repetition that prefers few rounds. -/
def skipLazy : List Char → List Char
  | '?' :: rest => rest
  | rest => rest

/-- The parts with the last one repeated; there has to be one that can be. -/
def repeatLast (parts : List (Option Pattern)) (least : Nat) (most : Option Nat) :
    Option (List (Option Pattern)) :=
  match parts with
  | some last :: earlier => some (some (.repeated last least most) :: earlier)
  | _ => none

/-- What an escape stands for outside classes. -/
def Escape.toPattern (flags : Flags) : Escape → Pattern
  | .char c => .char (flags.fold (.single c))
  | .set members => .char (flags.fold members)
  | .anchor condition => .anchor condition

/-- The alternatives up to the closing parenthesis or the end: `before` holds the alternatives that
are complete, `parts` the parts of the present one, last first, and `names` the names of groups so
far. A part that only sets modes is absent. -/
def readParts : Nat → Flags → List String → Option Pattern → List (Option Pattern) → List Char →
    Option (Pattern × List String × List Char)
  | 0, _, _, _, _, _ => none
  | fuel + 1, flags, names, before, parts, cs =>
    let add (part : Pattern) (rest : List Char) :=
      readParts fuel flags names before (some part :: parts) rest
    let repeatPart (least : Nat) (most : Option Nat) (rest : List Char) :=
      match repeatLast parts least most with
      | some parts => readParts fuel flags names before parts (skipLazy rest)
      | none => none
    match skipVerbose flags cs.length cs with
    | [] => some (joinAlternatives before (joinParts parts), names, [])
    | ')' :: rest => some (joinAlternatives before (joinParts parts), names, ')' :: rest)
    | '|' :: rest =>
      readParts fuel flags names (some (joinAlternatives before (joinParts parts))) [] rest
    | '*' :: rest => repeatPart 0 none rest
    | '+' :: rest => repeatPart 1 none rest
    | '?' :: rest => repeatPart 0 (some 1) rest
    | '\x7b' :: rest =>
      match parts, readBounds rest with
      | some _ :: _, some ((least, most), rest) => repeatPart least most rest
      | _, _ => none
    | '.' :: rest =>
      if !flags.unicode then none
      else add (.char (if flags.dotAll then .complement .none else .complement (.single '\n'))) rest
    | '^' :: rest => add (.anchor (if flags.multiLine then .lineStart else .textStart)) rest
    | '$' :: rest => add (.anchor (if flags.multiLine then .lineEnd else .textEnd)) rest
    | '\\' :: rest =>
      match readEscape flags rest with
      | some (escape, rest) => add (escape.toPattern flags) rest
      | none => none
    | '[' :: rest =>
      match readClass flags (2 * rest.length + 2) rest with
      | some (set, rest) => add (.char set) rest
      | none => none
    | '(' :: rest =>
      match readGroupHead flags rest with
      | none => none
      | some (.modes flags, rest) => readParts fuel flags names before (none :: parts) rest
      | some (.group inner name, rest) =>
        let known := match name with
          | some name => if names.contains name then none else some (name :: names)
          | none => some names
        match known with
        | none => none
        | some names =>
          match readParts fuel inner names none [] rest with
          | some (body, names, ')' :: rest) =>
            readParts fuel flags names before (some body :: parts) rest
          | _ => none
    | c :: rest => add (.char (flags.fold (.single c))) rest

/-- The pattern that a text denotes. -/
def ofText? (source : String) : Option Pattern :=
  let cs := source.toList
  match readParts (2 * cs.length + 2) Flags.start [] none [] cs with
  | some (pattern, _, []) => some pattern
  | _ => none

end ShelfLibrary.Pattern
