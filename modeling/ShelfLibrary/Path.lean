/-!
# Paths

A path addresses a section, a shelf or a field: names joined by dots, from the root of the library
inwards.  A name is made of letters and digits of ASCII, in parts joined by underscores.
-/

namespace ShelfLibrary.Path

/-- A letter or digit of ASCII. -/
def isAlphanumeric (c : Char) : Bool :=
  ('a' ≤ c && c ≤ 'z') || ('A' ≤ c && c ≤ 'Z') || ('0' ≤ c && c ≤ '9')

/-- Whether characters are non-empty runs of letters and digits with one separator between each
two; `inside` tells whether a run has begun before the first of them. -/
def isJoined (isSeparator : Char → Bool) : Bool → List Char → Bool
  | inside, [] => inside
  | inside, c :: rest =>
    if isAlphanumeric c then isJoined isSeparator true rest
    else inside && isSeparator c && isJoined isSeparator false rest

/-- Whether a text is a path. -/
def isValid (s : String) : Bool :=
  isJoined (fun c => c == '.' || c == '_') false s.toList

/-- Whether a text is the name of a section, a shelf or a field. -/
def isName (s : String) : Bool :=
  isJoined (· == '_') false s.toList

/-- The runs of characters between separators; there is one more of them than of separators. -/
def split (separator : Char) : List Char → List (List Char)
  | [] => [[]]
  | c :: rest =>
    if c = separator then [] :: split separator rest
    else match split separator rest with
      | [] => [[c]]
      | run :: runs => (c :: run) :: runs

/-- The dot-separated segments of a text. -/
def segments (s : String) : List String :=
  (split '.' s.toList).map String.ofList

/-- Segments joined by dots. -/
def ofSegments (names : List String) : String :=
  ".".intercalate names

/-- The path of a node below a parent, or at the root. -/
def join (parent : Option String) (name : String) : String :=
  match parent with
  | none => name
  | some path => path ++ "." ++ name

/-- All but the last segment; nothing at the root. -/
def parent? (s : String) : Option String :=
  match (segments s).dropLast with
  | [] => none
  | names => some (ofSegments names)

/-- What is left of characters after others at their front. -/
def after? : List Char → List Char → Option (List Char)
  | [], rest => some rest
  | _ :: _, [] => none
  | c :: front, d :: rest => if c = d then after? front rest else none

/-- What follows a path and a dot in another. -/
def below? (ancestor path : String) : Option String :=
  match after? ancestor.toList path.toList with
  | some ('.' :: rest) => some (String.ofList rest)
  | _ => none

/-- Whether a path equals another or lies below it. -/
def isWithin (path ancestor : String) : Bool :=
  path == ancestor || (below? ancestor path).isSome

end ShelfLibrary.Path
