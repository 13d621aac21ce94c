import ShelfLibrary.Disk.Checksum
import ShelfLibrary.Json.Decoder
import ShelfLibrary.Json.Reader
import ShelfLibrary.Json.Writer
import ShelfLibrary.Text.Number

/-!
# Frames

A stored file begins with a mark and a version.  Documents follow in frames: a version, the length
of the document, its text and a checksum of the text.  A reader can tell a frame that is cut off
from one that is damaged.
-/

namespace ShelfLibrary

/-- Why bytes cannot be read as a header or a frame. -/
inductive FrameFault where
  /-- The bytes end too soon. -/
  | endOfFile
  /-- The file does not begin with the mark. -/
  | wrongMark (found : Bytes)
  /-- The file has another version. -/
  | wrongFileVersion (found : UInt8)
  /-- The frame has another version. -/
  | wrongVersion (found : UInt8)
  /-- The document is too long. -/
  | tooLong (length : Nat)
  /-- The text does not have the checksum that is stored with it. -/
  | wrongChecksum (stored computed : UInt32)
  /-- The text is not that of the document that belongs there. -/
  | undecodable

namespace Frame

/-- The version of files and frames. -/
def version : UInt8 := 1

/-- The mark at the beginning of a file: the letters HYLA. -/
def mark : Bytes := [0x48, 0x59, 0x4C, 0x41]

/-- The greatest length of a document. -/
def lengthLimit : Nat := 64 * 1024 * 1024

/-- The beginning of a file. -/
def header : Bytes := mark ++ [version]

/-- The bytes of a document in a frame. -/
def encode (payload : Bytes) : Except FrameFault Bytes :=
  if lengthLimit < payload.length then .error (.tooLong payload.length)
  else .ok (version :: Bytes.ofWord (UInt32.ofNat payload.length) ++ payload ++
    Bytes.ofWord (Checksum.ofBytes payload))

/-- What follows the header of a file. -/
def afterHeader (bytes : Bytes) : Except FrameFault Bytes :=
  match Bytes.takeExactly? 4 bytes with
  | none => .error .endOfFile
  | some (found, rest) =>
    if found ≠ mark then .error (.wrongMark found)
    else match rest with
      | [] => .error .endOfFile
      | found :: rest => if found = version then .ok rest else .error (.wrongFileVersion found)

/-- The checksum at the front, held against a payload. -/
def checkPayload (payload : Bytes) : Bytes → Except FrameFault (Bytes × Bytes)
  | a :: b :: c :: d :: rest =>
    let stored := Bytes.word a b c d
    let computed := Checksum.ofBytes payload
    if stored = computed then .ok (payload, rest) else .error (.wrongChecksum stored computed)
  | _ => .error .endOfFile

/-- The document in the frame at the front, and the bytes after the frame. -/
def read : Bytes → Except FrameFault (Bytes × Bytes)
  | [] => .error .endOfFile
  | found :: rest =>
    if found ≠ version then .error (.wrongVersion found)
    else match rest with
      | a :: b :: c :: d :: rest =>
        let length := (Bytes.word a b c d).toNat
        if lengthLimit < length then .error (.tooLong length)
        else match Bytes.takeExactly? length rest with
          | none => .error .endOfFile
          | some (payload, rest) => checkPayload payload rest
      | _ => .error .endOfFile

theorem checkPayload_eq_ok {payload bytes read rest : Bytes}
    (checked : checkPayload payload bytes = .ok (read, rest)) :
    read = payload ∧ rest.length + 4 = bytes.length := by
  unfold checkPayload at checked
  split at checked
  · simp only at checked
    split at checked
    · simp only [Except.ok.injEq, Prod.mk.injEq] at checked
      obtain ⟨rfl, rfl⟩ := checked
      simp
    · simp at checked
  · simp at checked

/-- A frame takes nine bytes more than its document. -/
theorem length_of_read {bytes payload rest : Bytes} (framed : read bytes = .ok (payload, rest)) :
    payload.length + 9 + rest.length = bytes.length := by
  unfold read at framed
  split at framed
  · simp at framed
  · split at framed
    · simp at framed
    · split at framed
      · simp only at framed
        split at framed
        · simp at framed
        · split at framed
          · simp at framed
          · rename_i taken
            obtain ⟨_, rfl⟩ := Bytes.takeExactly?_eq_some taken
            obtain ⟨rfl, size⟩ := checkPayload_eq_ok framed
            simp only [List.length_cons, List.length_append]
            omega
      · simp at framed

/-- What a decoder reads off the text of a document. -/
def decodePayload {α : Type} (decode : Decoder α) (payload : Bytes) : Except FrameFault α :=
  match (Bytes.text? payload).bind (Json.scan? Json.nestingLimit) with
  | none => .error .undecodable
  | some document =>
    match decode document with
    | .ok value => .ok value
    | .error _ => .error .undecodable

/-- What a decoder reads off the document in the frame at the front, and the bytes after it. -/
def decode {α : Type} (decoder : Decoder α) (bytes : Bytes) : Except FrameFault (α × Bytes) := do
  let (payload, rest) ← read bytes
  return (← decodePayload decoder payload, rest)

/-- The frame of a document. -/
def ofJson (document : Json) : Except FrameFault Bytes :=
  encode (Bytes.ofText document.compact)

/-- A file with one document. -/
def fileOfJson (document : Json) : Except FrameFault Bytes :=
  (ofJson document).map (header ++ ·)

/-- What a decoder reads off the first document of a file. -/
def decodeFile {α : Type} (decoder : Decoder α) (bytes : Bytes) : Except FrameFault α := do
  let (value, _) ← decode decoder (← afterHeader bytes)
  return value

end Frame

namespace FrameFault

/-- A list of bytes as decimal numbers in brackets. -/
def bytesText (bytes : Bytes) : String :=
  "[" ++ ", ".intercalate (bytes.map fun byte => natText byte.toNat) ++ "]"

/-- The wording of a fault. -/
def message : FrameFault → String
  | .endOfFile => "failed to fill whole buffer"
  | .wrongMark found =>
    "invalid magic bytes: expected " ++ bytesText Frame.mark ++ ", got " ++ bytesText found
  | .wrongFileVersion found => "unsupported file version: " ++ natText found.toNat
  | .wrongVersion found =>
    "unsupported codec version: " ++ natText found.toNat ++ " (expected " ++
      natText Frame.version.toNat ++ ")"
  | .tooLong length =>
    "entry size " ++ natText length ++ " exceeds maximum " ++ natText Frame.lengthLimit
  | .wrongChecksum stored computed =>
    "CRC mismatch: stored=" ++ Hexadecimal.text 8 stored.toNat ++ ", computed=" ++
      Hexadecimal.text 8 computed.toNat
  | .undecodable => "deserialization failed"

end FrameFault

end ShelfLibrary
