import ShelfLibrary.Double.Text
import ShelfLibrary.Json.Basic
import ShelfLibrary.Text.Quoted

/-!
# Decoding documents

A decoder reads a value of some type off a JSON document, or says what is wrong with the document.
An object is read member by member in key order, and the first fault found is the one reported.
-/

namespace ShelfLibrary

-- Powers are those of the core library, with or without others at hand.
attribute [local instance (high)] instPowNat

/-- What is wrong with a document. -/
inductive DecodeError where
  /-- A document of another kind was expected. -/
  | wrongType (found : Json) (expected : String)
  /-- A document of the right kind has no such value. -/
  | wrongValue (found : Json) (expected : String)
  /-- An array has the wrong number of items. -/
  | wrongLength (length : Nat) (expected : String)
  /-- A required member is absent. -/
  | missingField (name : String)
  /-- A member is written twice. -/
  | repeatedField (name : String)
  /-- An object has a member that it must not have. -/
  | unknownField (name : String) (known : List String)
  /-- A name stands for none of the alternatives. -/
  | unknownVariant (name : String) (known : List String)
  /-- The document is well formed, but what it describes is refused. -/
  | refused (reason : String)

namespace DecodeError

/-- A name between backquotes. -/
private def ticked (name : String) : String :=
  "\x60" ++ name ++ "\x60"

/-- The names that would have been right. -/
def oneOf : List String → String
  | [] => "nothing"
  | [name] => ticked name
  | [first, second] => ticked first ++ " or " ++ ticked second
  | names => "one of " ++ ", ".intercalate (names.map ticked)

/-- A document described by its kind, and by its value where that is short. -/
def describe : Json → String
  | .null => "null"
  | .bool value => "boolean " ++ ticked (if value then "true" else "false")
  | .int n => "integer " ++ ticked (intText n)
  | .float d => "floating point " ++ ticked (d.text .json)
  | .text s => "string " ++ Text.quote s
  | .list _ => "sequence"
  | .object _ => "map"

/-- The text of an error. -/
def message : DecodeError → String
  | .wrongType found expected => "invalid type: " ++ describe found ++ ", expected " ++ expected
  | .wrongValue found expected => "invalid value: " ++ describe found ++ ", expected " ++ expected
  | .wrongLength length expected =>
    "invalid length " ++ natText length ++ ", expected " ++ expected
  | .missingField name => "missing field " ++ ticked name
  | .repeatedField name => "duplicate field " ++ ticked name
  | .unknownField name known => "unknown field " ++ ticked name ++ ", expected " ++ oneOf known
  | .unknownVariant name known =>
    "unknown variant " ++ ticked name ++ ", expected " ++ oneOf known
  | .refused reason => reason

end DecodeError

/-- A reader of values off documents. -/
abbrev Decoder (α : Type) := Json → Except DecodeError α

namespace Decoder

variable {α : Type}

/-- A text. -/
def text : Decoder String
  | .text value => .ok value
  | found => .error (.wrongType found "a string")

/-- A truth value. -/
def bool : Decoder Bool
  | .bool value => .ok value
  | found => .error (.wrongType found "a boolean")

/-- A whole number of 64 bits with a sign. -/
def int64 : Decoder Int64
  | .int n =>
    if -2 ^ (63 : Nat) ≤ n && n < 2 ^ (63 : Nat) then .ok (Int64.ofInt n)
    else .error (.wrongValue (.int n) "i64")
  | found => .error (.wrongType found "i64")

/-- A whole number of 64 bits without a sign, under the name of its type. -/
def nat64 (title : String) : Decoder Nat
  | .int n =>
    if 0 ≤ n && n < 2 ^ (64 : Nat) then .ok n.toNat else .error (.wrongValue (.int n) title)
  | found => .error (.wrongType found title)

/-- Any document. -/
def any : Decoder Json := .ok

/-- Nothing for `null`, otherwise what the given decoder reads. -/
def optional (decode : Decoder α) : Decoder (Option α)
  | .null => .ok none
  | found => (decode found).map some

/-- An array of documents that one decoder reads. -/
def list (decode : Decoder α) : Decoder (List α)
  | .list items => items.mapM decode
  | found => .error (.wrongType found "a sequence")

/-- The key of a member with what a decoder reads of its value. -/
def member (decode : Decoder α) : String × Json → Except DecodeError (String × α)
  | (key, value) => (decode value).map fun read => (key, read)

/-- An object whose members one decoder reads; of members with one key the last counts. -/
def table (decode : Decoder α) : Decoder (Table α)
  | .object members => (members.mapM (member decode)).map Table.ofEntries
  | found => .error (.wrongType found "a map")

/-- The only member of an object under a key, if there is one. -/
def sole? (members : List (String × Json)) (key : String) : Except DecodeError (Option Json) :=
  match members.filter fun entry => entry.1 == key with
  | [] => .ok none
  | [(_, value)] => .ok (some value)
  | _ => .error (.repeatedField key)

/-- One of some names, as a text or as the key of an object that holds `null` alone. -/
def name (known : List String) : Decoder String
  | .text value => check value
  | .object [(key, content)] => do
    let value ← check key
    match content with
    | .null => return value
    | content => throw (.wrongType content "unit")
  | .object members => .error (.wrongValue (.object members) "map with a single key")
  | found => .error (.wrongType found "string or map")
where
  /-- The name if it is known. -/
  check (value : String) : Except DecodeError String :=
    if known.contains value then .ok value else .error (.unknownVariant value known)

/-- An alternative with its content beside its name: an object with the two members, or an array of
the two.  `decode` reads the content of the alternative of a name, if there is content. -/
def adjacent (title tag content : String) (known : List String)
    (decode : String → Option Json → Except DecodeError α) : Decoder α
  | .object members => do
    match ← sole? members tag with
    | none => throw (.missingField tag)
    | some found =>
      let variant ← name known found
      decode variant (← sole? members content)
  | .list [] => .error (.wrongLength 0 ("adjacently tagged enum " ++ title))
  | .list [found] => do
    let _ ← name known found
    throw (.wrongLength 1 ("adjacently tagged enum " ++ title))
  | .list (found :: value :: surplus) => do
    let variant ← name known found
    let read ← decode variant (some value)
    if surplus.isEmpty then return read
    else throw (.wrongLength (surplus.length + 2) "fewer elements in array")
  | found => .error (.wrongType found ("adjacently tagged enum " ++ title))

/-- The content of an alternative that has one. -/
def required (content : String) (decode : Decoder α) : Option Json → Except DecodeError α
  | some found => decode found
  | none => .error (.missingField content)

/-- The content of an alternative that has none: absent or `null`. -/
def unit (title : String) (value : α) : Option Json → Except DecodeError α
  | none => .ok value
  | some .null => .ok value
  | some found => .error (.wrongType found ("unit variant " ++ title))

end Decoder

end ShelfLibrary
