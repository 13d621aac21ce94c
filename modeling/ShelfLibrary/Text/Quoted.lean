import ShelfLibrary.Text.Number
import ShelfLibrary.Text.Unprintable

/-!
# Quoted text

A text between double quotes, with everything escaped that would not show as itself: the quote, the
backslash, and the unprintable characters by name or by their number in hexadecimal digits.
-/

namespace ShelfLibrary.Text

/-- The quoted form of one character. -/
def quoteChar (c : Char) : List Char :=
  match c with
  | '"' => ['\\', '"']
  | '\\' => ['\\', '\\']
  | '\n' => ['\\', 'n']
  | '\r' => ['\\', 'r']
  | '\t' => ['\\', 't']
  | '\x00' => ['\\', '0']
  | c =>
    if isUnprintable c then ['\\', 'u', '\x7b'] ++ paddedDigits 16 1 c.toNat ++ ['\x7d'] else [c]

/-- A text between double quotes. -/
def quote (s : String) : String :=
  String.ofList ('"' :: (s.toList.flatMap quoteChar ++ ['"']))

end ShelfLibrary.Text
