/-!
# Bytes

The contents of files as lists of bytes, with the two forms that texts and numbers take in them:
UTF-8, and four bytes with the least significant one first.
-/

namespace ShelfLibrary

/-- A sequence of bytes. -/
abbrev Bytes := List UInt8

namespace Bytes

/-- The UTF-8 form of a text. -/
def ofText (s : String) : Bytes := s.toUTF8.toList

/-- The text of bytes in UTF-8; other bytes have none. -/
def text? (bytes : Bytes) : Option String :=
  String.fromUTF8? (ByteArray.mk bytes.toArray)

/-- The four bytes of a word, the least significant one first. -/
def ofWord (word : UInt32) : Bytes :=
  [word.toUInt8, (word >>> 8).toUInt8, (word >>> 16).toUInt8, (word >>> 24).toUInt8]

/-- The word of four bytes, the least significant one first. -/
def word (a b c d : UInt8) : UInt32 :=
  a.toUInt32 ||| (b.toUInt32 <<< 8) ||| (c.toUInt32 <<< 16) ||| (d.toUInt32 <<< 24)

/-- The first bytes and those after them, if there are so many. -/
def takeExactly? (count : Nat) (bytes : Bytes) : Option (Bytes × Bytes) :=
  let front := bytes.take count
  if front.length = count then some (front, bytes.drop count) else none

theorem takeExactly?_eq_some {count : Nat} {bytes front rest : Bytes}
    (taken : takeExactly? count bytes = some (front, rest)) :
    front.length = count ∧ bytes = front ++ rest := by
  simp only [takeExactly?] at taken
  split at taken
  · rename_i enough
    obtain ⟨rfl, rfl⟩ := Prod.mk.inj (Option.some.inj taken)
    exact ⟨enough, (List.take_append_drop count bytes).symm⟩
  · simp at taken

end Bytes

end ShelfLibrary
