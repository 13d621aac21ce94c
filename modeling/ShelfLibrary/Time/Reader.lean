import ShelfLibrary.Text.Blank
import ShelfLibrary.Text.Number
import ShelfLibrary.Time.Instant

/-!
# Reading instants

Three forms of a date are read: the strict timestamp with two digits to a field, the relaxed
timestamp that stored values may use, with blanks between fields and signed years, and the plain
date.  A reader takes the characters that are left and gives back what it read and the rest.
-/

namespace ShelfLibrary

-- Powers are those of the core library, with or without others at hand.
attribute [local instance (high)] instPowNat

namespace Time

/-- Why a text is no timestamp. -/
inductive Fault where
  /-- A field holds a number that it cannot have. -/
  | outOfRange
  /-- No instant has the local time. -/
  | impossible
  /-- The text ends before the fields are complete. -/
  | notEnough
  /-- A character stands where another kind is due. -/
  | invalid
  /-- A field is cut off. -/
  | tooShort
  /-- Text follows the last field. -/
  | tooLong
deriving DecidableEq, Repr

/-- The message of a fault. -/
def Fault.message : Fault → String
  | .outOfRange => "input is out of range"
  | .impossible => "no possible date and time matching input"
  | .notEnough => "input is not enough for unique date and time"
  | .invalid => "input contains invalid characters"
  | .tooShort => "premature end of input"
  | .tooLong => "trailing input"

/-- A reader of some characters of a text. -/
abbrev Reader (α : Type) := List Char → Except Fault (α × List Char)

/-- The characters after leading white space. -/
def skipBlank (cs : List Char) : List Char :=
  cs.dropWhile Text.isBlank

/-- A number of `least` to `most` decimal digits, whose value is below `2^63`. -/
def number (least : Nat) (most : Option Nat) : Reader Nat := fun cs =>
  let window := match most with
    | some width => cs.take width
    | none => cs
  let digits := window.takeWhile Char.isDigit
  let value := natOfDigits digits
  if digits.length < least then
    .error (if (String.ofList cs).utf8ByteSize < least then .tooShort else .invalid)
  else if 2 ^ (63 : Nat) ≤ value then .error .outOfRange
  else .ok (value, cs.drop digits.length)

/-- One given character. -/
def sign (expected : Char) : Reader Unit
  | [] => .error .tooShort
  | c :: rest => if c = expected then .ok ((), rest) else .error .invalid

/-- The letter or blank between date and time. -/
def separator : Reader Unit
  | [] => .error .tooShort
  | c :: rest => if c == 't' || c == 'T' || c == ' ' then .ok ((), rest) else .error .invalid

/-- The fraction of a second after its point; digits past the ninth are dropped. -/
def fraction : Reader Nat
  | '.' :: cs => do
    let (value, rest) ← number 1 (some 9) cs
    let width := cs.length - rest.length
    return (value * 10 ^ (9 - width), rest.dropWhile Char.isDigit)
  | cs => .ok (0, cs)

/-- Two decimal digits. -/
def twoDigits : Reader Nat
  | a :: b :: rest =>
    if a.isDigit && b.isDigit then
      .ok (natOfDigits [a, b], rest)
    else .error .invalid
  | cs => .error (if (String.ofList cs).utf8ByteSize < 2 then .tooShort else .invalid)

/-- A time zone in seconds east of Greenwich: the letter of universal time, or a signed number of
hours and minutes with what `between` reads between them. -/
def zone (between : Reader Unit) : Reader Int
  | [] => .error .tooShort
  | c :: rest =>
    if c == 'Z' || c == 'z' then .ok (0, rest)
    else if c == '+' || c == '-' || c == '\u2212' then do
      let (hours, rest) ← twoDigits rest
      let ((), rest) ← between rest
      let (minutes, rest) ← twoDigits rest
      if 60 ≤ minutes then .error .outOfRange
      else
        let seconds : Int := hours * 3600 + minutes * 60
        .ok (if c == '+' then seconds else -seconds, rest)
    else .error .invalid

/-- The value if it lies between two bounds. -/
def bounded (low high : Nat) (value : Nat) : Except Fault Unit :=
  if low ≤ value && value ≤ high then .ok () else .error .outOfRange

/-- The fields of a local timestamp. -/
structure Fields where
  /-- The date. -/
  date : Date
  /-- The hour of the day. -/
  hour : Nat
  /-- The minute of the hour. -/
  minute : Nat
  /-- The second of the minute, up to 60. -/
  second : Nat
  /-- The fraction of the second. -/
  nanos : Nat
  /-- The offset from universal time in seconds. -/
  offset : Int

/-- The instant of a local timestamp. -/
def Fields.toInstant (fields : Fields) : Except Fault Instant :=
  if !fields.date.isValid || 86400 ≤ fields.offset.natAbs then .error .outOfRange
  else
    let inserted := fields.second = 60
    let second := if inserted then 59 else fields.second
    let time : Int := fields.hour * 3600 + fields.minute * 60 + second
    let instant : Instant :=
      ⟨fields.date.toDay * 86400 + time - fields.offset,
        if inserted then fields.nanos + 1000000000 else fields.nanos⟩
    let year := (Date.ofDay instant.day).year
    if Date.firstYear ≤ year && year ≤ Date.lastYear then .ok instant else .error .impossible

/-- The strict timestamp. -/
def strict (cs : List Char) : Except Fault Instant := do
  let (year, cs) ← number 4 (some 4) cs
  let ((), cs) ← sign '-' cs
  let (month, cs) ← number 2 (some 2) cs
  bounded 1 12 month
  let ((), cs) ← sign '-' cs
  let (day, cs) ← number 2 (some 2) cs
  bounded 1 31 day
  let ((), cs) ← separator cs
  let (hour, cs) ← number 2 (some 2) cs
  bounded 0 23 hour
  let ((), cs) ← sign ':' cs
  let (minute, cs) ← number 2 (some 2) cs
  bounded 0 59 minute
  let ((), cs) ← sign ':' cs
  let (second, cs) ← number 2 (some 2) cs
  bounded 0 60 second
  let (nanos, cs) ← fraction cs
  let (offset, cs) ← zone (sign ':') cs
  if !cs.isEmpty then throw .tooLong
  Fields.toInstant ⟨⟨year, month, day⟩, hour, minute, second, nanos, offset⟩

/-- A year: at most four digits, or any number of them after a sign. -/
def signedYear : Reader Int := fun cs =>
  match skipBlank cs with
  | '-' :: rest => do
    let (value, rest) ← number 1 none rest
    return (-(value : Int), rest)
  | '+' :: rest => do
    let (value, rest) ← number 1 none rest
    return ((value : Int), rest)
  | cs => do
    let (value, rest) ← number 1 (some 4) cs
    return ((value : Int), rest)

/-- A number of one or two digits between two bounds, after white space. -/
def field (low high : Nat) : Reader Nat := fun cs => do
  let (value, rest) ← number 1 (some 2) (skipBlank cs)
  bounded low high value
  return (value, rest)

/-- A year that is small enough to be kept in 32 bits. -/
def boundedYear : Reader Int := fun cs => do
  let (year, rest) ← signedYear cs
  if -2 ^ (31 : Nat) ≤ year && year < 2 ^ (31 : Nat) then return (year, rest) else throw .outOfRange

/-- The relaxed timestamp. -/
def relaxed (cs : List Char) : Except Fault Instant := do
  let (year, cs) ← boundedYear cs
  let ((), cs) ← sign '-' (skipBlank cs)
  let (month, cs) ← field 1 12 cs
  let ((), cs) ← sign '-' (skipBlank cs)
  let (day, cs) ← field 1 31 cs
  if cs.isEmpty then throw .notEnough
  let ((), cs) ← separator cs
  let (hour, cs) ← field 0 23 cs
  let ((), cs) ← sign ':' (skipBlank cs)
  let (minute, cs) ← field 0 59 cs
  let ((), cs) ← sign ':' (skipBlank cs)
  let (second, cs) ← field 0 60 cs
  let (nanos, cs) ← fraction cs
  let cs := skipBlank cs
  if cs.isEmpty then throw .notEnough
  let (offset, cs) ←
    if (cs.take 3).map Char.toUpper = ['U', 'T', 'C'] then .ok (0, cs.drop 3)
    else zone (fun cs => .ok ((), cs.dropWhile fun c => c == ':' || Text.isBlank c)) cs
  if !(skipBlank cs).isEmpty then throw .tooLong
  Fields.toInstant ⟨⟨year, month, day⟩, hour, minute, second, nanos, offset⟩

/-- The plain date. -/
def plainDate (cs : List Char) : Except Fault Date := do
  let (year, cs) ← boundedYear cs
  let ((), cs) ← sign '-' cs
  let (month, cs) ← field 1 12 cs
  let ((), cs) ← sign '-' cs
  let (day, cs) ← field 1 31 cs
  if !cs.isEmpty then throw .tooLong
  let date : Date := ⟨year, month, day⟩
  if date.isValid then return date else throw .outOfRange

end Time

namespace Instant

/-- The instant of a strict timestamp. -/
def ofStrict? (s : String) : Option Instant :=
  (Time.strict s.toList).toOption

/-- The instant of a relaxed timestamp. -/
def ofRelaxed (s : String) : Except Time.Fault Instant :=
  Time.relaxed s.toList

/-- The instant of a strict timestamp, or the first instant of a plain date. -/
def ofText? (s : String) : Option Instant :=
  ofStrict? s <|> (Time.plainDate s.toList).toOption.map ofDate

end Instant

end ShelfLibrary
