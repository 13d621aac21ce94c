import ShelfLibrary.Json.Basic
import ShelfLibrary.Double.Rounding
import ShelfLibrary.Text.Number

/-!
# Reading JSON text

A reader for the JSON grammar and nothing beyond it.  Arrays and objects may nest up to a given
depth, and a number that no finite double approximates is refused.  A scan keeps every member where
it is written; a document that is read has its members in key order, and of members with one key the
last counts.  Each reader takes the characters that are left and gives back what it read with the
characters after it.
-/

namespace ShelfLibrary.Json

-- Powers are those of the core library, with or without others at hand.
attribute [local instance (high)] instPowNat

/-- The characters after leading spaces, tabs and line ends. -/
def skipBlanks (cs : List Char) : List Char :=
  cs.dropWhile fun c => c == ' ' || c == '\n' || c == '\t' || c == '\r'

/-- The character that stands for itself after a backslash by a letter or sign. -/
def escapedChar? : Char → Option Char
  | '"' => some '"'
  | '\\' => some '\\'
  | '/' => some '/'
  | 'b' => some '\x08'
  | 'f' => some '\x0c'
  | 'n' => some '\n'
  | 'r' => some '\r'
  | 't' => some '\t'
  | _ => none

/-- The rest of a text after its opening quote; `read` holds the characters so far, last first.
Code points beyond the basic plane are written as two units, and neither unit stands alone. -/
def readText : List Char → List Char → Option (String × List Char)
  | '"' :: rest, read => some (String.ofList read.reverse, rest)
  | '\\' :: 'u' :: a :: b :: c :: d :: rest, read =>
    match Hexadecimal.number? [a, b, c, d] with
    | none => none
    | some unit =>
      if unit < 0xD800 || 0xDFFF < unit then readText rest (Char.ofNat unit :: read)
      else if 0xDBFF < unit then none
      else match rest with
        | '\\' :: 'u' :: a :: b :: c :: d :: rest =>
          match Hexadecimal.number? [a, b, c, d] with
          | none => none
          | some low =>
            if low < 0xDC00 || 0xDFFF < low then none
            else
              let code := 0x10000 + (unit - 0xD800) * 0x400 + (low - 0xDC00)
              readText rest (Char.ofNat code :: read)
        | _ => none
  | '\\' :: c :: rest, read =>
    match escapedChar? c with
    | none => none
    | some escaped => readText rest (escaped :: read)
  | c :: rest, read => if c < ' ' then none else readText rest (c :: read)
  | [], _ => none

/-- The digits at the front and the characters after them. -/
def readDigits (cs : List Char) : List Char × List Char :=
  (cs.takeWhile Char.isDigit, cs.dropWhile Char.isDigit)

/-- The digits of a fraction after its point; none where there is no point. -/
def readFraction? : List Char → Option (List Char × List Char)
  | '.' :: rest =>
    let (digits, rest) := readDigits rest
    if digits.isEmpty then none else some (digits, rest)
  | rest => some ([], rest)

/-- The exponent after its mark, or nothing where there is no mark. -/
def readExponent? : List Char → Option (Option Int × List Char)
  | c :: rest =>
    if c == 'e' || c == 'E' then
      let (negative, rest) := match rest with
        | '-' :: rest => (true, rest)
        | '+' :: rest => (false, rest)
        | rest => (false, rest)
      let (digits, rest) := readDigits rest
      if digits.isEmpty then none
      else
        let size : Int := natOfDigits digits
        some (some (if negative then -size else size), rest)
    else some (none, c :: rest)
  | [] => some (none, [])

/-- Whether a whole number is kept as such: it fits 64 bits, with or without a sign. -/
def isWholeRange (n : Int) : Bool :=
  -2 ^ (63 : Nat) ≤ n && n < 2 ^ (64 : Nat)

/-- A number without its sign.  Zero after a minus sign is a double, as it keeps the sign. -/
def readUnsigned (negative : Bool) (cs : List Char) : Option (Json × List Char) := do
  let (whole, rest) := readDigits cs
  let (whole, rest) ← match whole with
    | [] => none
    | '0' :: more => some (['0'], more ++ rest)
    | digits => some (digits, rest)
  let (fraction, rest) ← readFraction? rest
  let (exponent, rest) ← readExponent? rest
  let digits := natOfDigits (whole ++ fraction)
  let value : Int := if negative then -(digits : Int) else digits
  if fraction.isEmpty && exponent.isNone && isWholeRange value && !(negative && digits == 0) then
    return (.int value, rest)
  let d ← Double.ofDecimal? negative digits (exponent.getD 0 - fraction.length)
  return (.float d, rest)

/-- A number. -/
def readNumber : List Char → Option (Json × List Char)
  | '-' :: rest => readUnsigned true rest
  | rest => readUnsigned false rest

mutual

/-- One document with at most `depth` levels of arrays and objects; `fuel` bounds the steps. -/
def readValue : Nat → Nat → List Char → Option (Json × List Char)
  | 0, _, _ => none
  | fuel + 1, depth, cs =>
    match skipBlanks cs with
    | 'n' :: 'u' :: 'l' :: 'l' :: rest => some (.null, rest)
    | 't' :: 'r' :: 'u' :: 'e' :: rest => some (.bool true, rest)
    | 'f' :: 'a' :: 'l' :: 's' :: 'e' :: rest => some (.bool false, rest)
    | '"' :: rest => (readText rest []).map fun (content, rest) => (.text content, rest)
    | '[' :: rest =>
      match depth with
      | 0 => none
      | depth + 1 =>
        match skipBlanks rest with
        | ']' :: rest => some (.list [], rest)
        | rest => readItems fuel depth [] rest
    | '\x7b' :: rest =>
      match depth with
      | 0 => none
      | depth + 1 =>
        match skipBlanks rest with
        | '\x7d' :: rest => some (.object [], rest)
        | rest => readMembers fuel depth [] rest
    | rest => readNumber rest

/-- The items of an array from one item on, after those already read, last first. -/
def readItems : Nat → Nat → List Json → List Char → Option (Json × List Char)
  | 0, _, _, _ => none
  | fuel + 1, depth, read, cs =>
    match readValue fuel depth cs with
    | none => none
    | some (item, rest) =>
      match skipBlanks rest with
      | ',' :: rest => readItems fuel depth (item :: read) rest
      | ']' :: rest => some (.list (item :: read).reverse, rest)
      | _ => none

/-- The members of an object from one member on, after those already read, last first. -/
def readMembers : Nat → Nat → List (String × Json) → List Char → Option (Json × List Char)
  | 0, _, _, _ => none
  | fuel + 1, depth, read, cs =>
    match skipBlanks cs with
    | '"' :: rest =>
      match readText rest [] with
      | none => none
      | some (key, rest) =>
        match skipBlanks rest with
        | ':' :: rest =>
          match readValue fuel depth rest with
          | none => none
          | some (value, rest) =>
            match skipBlanks rest with
            | ',' :: rest => readMembers fuel depth ((key, value) :: read) rest
            | '\x7d' :: rest => some (.object ((key, value) :: read).reverse, rest)
            | _ => none
        | _ => none
    | _ => none

end

mutual

/-- A document with its members in key order, of which the last of each key counts. -/
def inKeyOrder : Json → Json
  | .list items => .list (inKeyOrderItems items)
  | .object members => .object (Table.ofEntries (inKeyOrderMembers members))
  | other => other

/-- The items of an array, each with its members in key order. -/
def inKeyOrderItems : List Json → List Json
  | [] => []
  | item :: rest => inKeyOrder item :: inKeyOrderItems rest

/-- The members of an object, each value with its own members in key order. -/
def inKeyOrderMembers : List (String × Json) → List (String × Json)
  | [] => []
  | (key, value) :: rest => (key, inKeyOrder value) :: inKeyOrderMembers rest

end

/-- The document that a text holds between blanks, with at most `depth` levels of nesting and every
member where it is written. -/
def scan? (depth : Nat) (source : String) : Option Json :=
  let cs := source.toList
  match readValue (2 * cs.length + 2) depth cs with
  | some (value, rest) => if (skipBlanks rest).isEmpty then some value else none
  | none => none

/-- The document that a text holds between blanks, with at most `depth` levels of nesting. -/
def read? (depth : Nat) (source : String) : Option Json :=
  (scan? depth source).map inKeyOrder

/-- How deep a document may nest that comes from outside. -/
def nestingLimit : Nat := 127

/-- The document that a text holds, nesting no deeper than the limit. -/
def ofText? (source : String) : Option Json :=
  read? nestingLimit source

end ShelfLibrary.Json
