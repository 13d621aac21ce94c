import ShelfLibrary.Double.Text
import ShelfLibrary.Json.Basic
import ShelfLibrary.Text.Number

/-!
# Writing JSON text

Documents on one line or indented by two spaces a level.  A double is written with its shortest
digits, and as `null` when it is infinite or no number.
-/

namespace ShelfLibrary.Json

/-- The escaped form of one character in a text. -/
def escapeChar (c : Char) : List Char :=
  match c with
  | '"' => ['\\', '"']
  | '\\' => ['\\', '\\']
  | '\x08' => ['\\', 'b']
  | '\x0c' => ['\\', 'f']
  | '\n' => ['\\', 'n']
  | '\r' => ['\\', 'r']
  | '\t' => ['\\', 't']
  | c =>
    if c < ' ' then '\\' :: 'u' :: paddedDigits 16 4 c.toNat else [c]

/-- A text between quotes. -/
def writeText (s : String) : List Char :=
  '"' :: (s.toList.flatMap escapeChar ++ ['"'])

/-- A double, or `null` if it is not finite. -/
def writeDouble (d : Double) : List Char :=
  if d.isFinite then (d.text .json).toList else ['n', 'u', 'l', 'l']

/-- A document that holds no other documents. -/
def writeLeaf : Json → List Char
  | .bool true => ['t', 'r', 'u', 'e']
  | .bool false => ['f', 'a', 'l', 's', 'e']
  | .int n => (intText n).toList
  | .float d => writeDouble d
  | .text s => writeText s
  | _ => ['n', 'u', 'l', 'l']

mutual

/-- A document on one line without blanks. -/
def write : Json → List Char
  | .list [] => ['[', ']']
  | .list (item :: rest) => '[' :: (write item ++ writeItems rest)
  | .object [] => ['\x7b', '\x7d']
  | .object ((key, value) :: rest) =>
    '\x7b' :: (writeText key ++ ':' :: (write value ++ writeMembers rest))
  | .null => writeLeaf .null
  | .bool b => writeLeaf (.bool b)
  | .int n => writeLeaf (.int n)
  | .float d => writeLeaf (.float d)
  | .text s => writeLeaf (.text s)

/-- The items after the first and the closing bracket. -/
def writeItems : List Json → List Char
  | [] => [']']
  | item :: rest => ',' :: (write item ++ writeItems rest)

/-- The members after the first and the closing brace. -/
def writeMembers : List (String × Json) → List Char
  | [] => ['\x7d']
  | (key, value) :: rest => ',' :: (writeText key ++ ':' :: (write value ++ writeMembers rest))

end

/-- A line end and the blanks of a level. -/
def newLine (level : Nat) : List Char :=
  '\n' :: List.replicate (2 * level) ' '

mutual

/-- A document at an indentation level, one item or member a line. -/
def writeIndented (level : Nat) : Json → List Char
  | .list [] => ['[', ']']
  | .list (item :: rest) =>
    '[' :: (newLine (level + 1) ++ writeIndented (level + 1) item ++ indentedItems level rest)
  | .object [] => ['\x7b', '\x7d']
  | .object ((key, value) :: rest) =>
    '\x7b' :: (newLine (level + 1) ++ writeText key ++ ':' :: ' ' ::
      (writeIndented (level + 1) value ++ indentedMembers level rest))
  | .null => writeLeaf .null
  | .bool b => writeLeaf (.bool b)
  | .int n => writeLeaf (.int n)
  | .float d => writeLeaf (.float d)
  | .text s => writeLeaf (.text s)

/-- The items after the first and the closing bracket on a line of its own. -/
def indentedItems (level : Nat) : List Json → List Char
  | [] => newLine level ++ [']']
  | item :: rest =>
    ',' :: (newLine (level + 1) ++ writeIndented (level + 1) item ++ indentedItems level rest)

/-- The members after the first and the closing brace on a line of its own. -/
def indentedMembers (level : Nat) : List (String × Json) → List Char
  | [] => newLine level ++ ['\x7d']
  | (key, value) :: rest =>
    ',' :: (newLine (level + 1) ++ writeText key ++ ':' :: ' ' ::
      (writeIndented (level + 1) value ++ indentedMembers level rest))

end

/-- The document on one line. -/
def compact (json : Json) : String :=
  String.ofList json.write

/-- The document indented by two spaces a level. -/
def pretty (json : Json) : String :=
  String.ofList (json.writeIndented 0)

end ShelfLibrary.Json
