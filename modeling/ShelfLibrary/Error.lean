import ShelfLibrary.Json.Decoder
import ShelfLibrary.Json.Writer

/-!
# Errors

Everything that can go wrong, by cause, with the wording of each cause in one place.  Queries are
refused by validation before they reach a library, fail by resolution when the library does not hold
what they address, and by storage when the stores do not answer.  A text that another program words
is left open and written as a mark in angle brackets.
-/

namespace ShelfLibrary

/-- What keeps a list of conditions and connectives from being an expression. -/
inductive GroupFault where
  /-- A connective stands first or last. -/
  | connectiveAtEnd
  /-- Two connectives stand together. -/
  | connectives
  /-- Two operands stand together. -/
  | operands
  /-- A text is no connective. -/
  | unknownConnective (token : String)
  /-- A document is neither operand nor connective. -/
  | notAnItem (found : Json)
  /-- An operand cannot be decoded. -/
  | undecodable (cause : DecodeError)

/-- The wording of a group fault. -/
def GroupFault.message : GroupFault → String
  | .connectiveAtEnd => "logical operators must sit between conditions or groups, not at the ends"
  | .connectives => "two consecutive logical operators"
  | .operands => "conditions or groups must be separated by 'AND' or 'OR'"
  | .unknownConnective token =>
    "invalid logical operator '" ++ token ++ "', expected 'AND' or 'OR'"
  | .notAnItem found =>
    "expected a condition, a group or a logical operator, found " ++ found.compact
  | .undecodable cause => cause.message

/-- How a record breaks a schema, or a schema its own rules. -/
inductive Violation where
  /-- The schema has no such field. -/
  | unknownField (field : String)
  /-- A required field is absent or null. -/
  | missingField (field : String)
  /-- A field holds a value of another type. -/
  | mismatch (field expected found : String)
  /-- A nested record breaks its own schema. -/
  | nested (field schema : String) (inner : Violation)
  /-- A field is declared twice. -/
  | duplicateField (field : String)
  /-- A value that should be a record is something else. -/
  | notARecord (found : String)
  /-- An instance belongs to an unrelated schema. -/
  | unrelated (schema bound : String)

/-- The wording of a violation. -/
def Violation.message : Violation → String
  | .unknownField field => "unknown field '" ++ field ++ "'"
  | .missingField field => "missing required field '" ++ field ++ "'"
  | .mismatch field expected found =>
    "field '" ++ field ++ "' expected " ++ expected ++ ", found " ++ found
  | .nested field schema inner => "field '" ++ field ++ "' (" ++ schema ++ "): " ++ inner.message
  | .duplicateField field => "field '" ++ field ++ "' declared twice"
  | .notARecord found => "expected a record, found " ++ found
  | .unrelated schema bound => "an instance of '" ++ schema ++ "' is not a '" ++ bound ++ "'"

/-- What is wrong with one field of a query or a setting. -/
inductive FieldFault where
  /-- A record or list is empty. -/
  | empty
  /-- An operand that is marked as a path is no text. -/
  | notAPath (found : String)
  /-- The pattern of a match is no text. -/
  | patternNotText
  /-- The pattern of a match is malformed. -/
  | badPattern (pattern : String)
  /-- Groups nest too deep. -/
  | tooDeep (found limit : Nat)
  /-- A checkout selects nothing. -/
  | emptySelection
  /-- A checkout selects everything and more. -/
  | mixedSelection
  /-- A checkout is limited to no rows. -/
  | zeroLimit
  /-- A transaction has too many queries. -/
  | tooManyQueries (limit : Nat)
  /-- A transaction holds a transaction. -/
  | nestedTransaction
  /-- The text of a query is no JSON. -/
  | notJson
  /-- A query is no object. -/
  | notAnObject
  /-- The name of an operation is no text. -/
  | notAText
  /-- There is no operation of the name. -/
  | unknownOperation (name : String)
  /-- The payload of a query cannot be decoded. -/
  | undecodable (cause : DecodeError)
  /-- A location has no path. -/
  | emptyLocation
  /-- A location has no key. -/
  | emptyKey
  /-- The journal is allowed too few bytes. -/
  | smallJournal (least found : Nat)
  /-- A path that should lead to a field leads to a node. -/
  | notAField (path : String)

/-- The wording of a field fault. -/
def FieldFault.message : FieldFault → String
  | .empty => "must not be empty"
  | .notAPath found => "expected a path string, found " ++ found
  | .patternNotText => "the \x60matches\x60 operator requires a regular expression string"
  | .badPattern pattern => "invalid regex '" ++ pattern ++ "'"
  | .tooDeep found limit =>
    "groups nested " ++ natText found ++ " deep, at most " ++ natText limit ++ " allowed"
  | .emptySelection => "at least one field or '*all' is required"
  | .mixedSelection => "'*all' must be the only entry when present"
  | .zeroLimit => "must be at least 1"
  | .tooManyQueries limit => "at most " ++ natText limit ++ " queries per transaction"
  | .nestedTransaction => "transactions cannot be nested"
  | .notJson => "<json>"
  | .notAnObject => "expected an object"
  | .notAText => "expected a string"
  | .unknownOperation name => "unknown operation \x60" ++ name ++ "\x60"
  | .undecodable cause => cause.message
  | .emptyLocation => "location path must not be empty"
  | .emptyKey => "location key path must not be empty"
  | .smallJournal least found =>
    "must be at least " ++ natText least ++ " bytes (got " ++ natText found ++ ")"
  | .notAField path => "'" ++ path ++ "' addresses a node, not a field inside a shelf"

/-- Why a query, or a part of one, is refused. -/
inductive ValidationError where
  /-- There is no such operator. -/
  | invalidOperator (operator : String)
  /-- A text is no path. -/
  | invalidPath (path : String)
  /-- A text is no name. -/
  | invalidName (name : String)
  /-- Neither side of a condition is a path. -/
  | ambiguousCondition
  /-- A list of conditions and connectives is no expression. -/
  | malformedGroup (position : Nat) (fault : GroupFault)
  /-- A group holds nothing. -/
  | emptyGroup
  /-- A record breaks a schema. -/
  | schemaViolation (schema : String) (violation : Violation)
  /-- Two settings exclude each other. -/
  | exclusive (first second : String)
  /-- A required setting is absent. -/
  | missing (field : String)
  /-- A setting has a value that it cannot have. -/
  | invalidField (field : String) (fault : FieldFault)

/-- The wording of a validation error. -/
def ValidationError.message : ValidationError → String
  | .invalidOperator operator => "Invalid operator '" ++ operator ++ "'"
  | .invalidPath path =>
    "Invalid path '" ++ path ++ "': expected dot separated alphanumeric segments, " ++
      "e.g. 'section.shelf.field'"
  | .invalidName name =>
    "Invalid name '" ++ name ++ "': expected alphanumeric characters with optional '_' separators"
  | .ambiguousCondition =>
    "Ambiguous condition: at least one of \x60left_is_path\x60 or \x60right_is_path\x60 " ++
      "must be true"
  | .malformedGroup position fault =>
    "Malformed group at position " ++ natText position ++ ": " ++ fault.message
  | .emptyGroup => "Group cannot be empty"
  | .schemaViolation schema violation =>
    "Schema '" ++ schema ++ "' violated: " ++ violation.message
  | .exclusive first second => "Only one of '" ++ first ++ "' and '" ++ second ++ "' can be set"
  | .missing field => "Required field '" ++ field ++ "' is missing"
  | .invalidField field fault => "Invalid field '" ++ field ++ "': " ++ fault.message

/-- The decoding error of a document that describes something refused. -/
def ValidationError.toDecodeError (e : ValidationError) : DecodeError :=
  .refused e.message

/-- Why a query does not fit what a library holds. -/
inductive ResolutionError where
  /-- Nothing is registered under the path. -/
  | notFound (path : String)
  /-- Something is registered under the path already. -/
  | duplicate (path : String)
  /-- A shelf is registered where a section is needed. -/
  | notASection (path : String)
  /-- A section is registered where a shelf is needed. -/
  | notAShelf (path : String)
  /-- A field that is to be written holds a value. -/
  | alreadyHasData (path : String)
deriving DecidableEq

/-- The wording of a resolution error. -/
def ResolutionError.message : ResolutionError → String
  | .notFound path => "Path not found: " ++ path
  | .duplicate path => "Path already exists: " ++ path
  | .notASection path => "Path '" ++ path ++ "' is not a section"
  | .notAShelf path => "Path '" ++ path ++ "' is not a shelf"
  | .alreadyHasData path => "Path '" ++ path ++ "' already holds data"

/-- Why a store does not answer. -/
inductive StorageError where
  /-- A file operation failed. -/
  | io
  /-- Stored bytes are not what was written. -/
  | corrupted (reason : String)
  /-- The directory is in use. -/
  | locked
  /-- The store refuses the operation. -/
  | backend (reason : String)
  /-- The contents have no stored form. -/
  | unencodable
deriving DecidableEq

/-- The wording of a storage error. -/
def StorageError.message : StorageError → String
  | .io => "I/O error: <os>"
  | .corrupted reason => "Storage data corrupted: " ++ reason
  | .locked => "Library is locked: <os>"
  | .backend reason => "Storage backend error: " ++ reason
  | .unencodable => "Serialization error: <os>"

/-- Why an operation on a library fails. -/
inductive LibraryError where
  /-- The query is refused. -/
  | validation (cause : ValidationError)
  /-- The query does not fit what the library holds. -/
  | resolution (cause : ResolutionError)
  /-- A store does not answer. -/
  | storage (cause : StorageError)
  /-- What is registered in memory differs from what is stored. -/
  | diverged (operation : String) (keys entries stored : Nat)
  /-- A failed transaction could not be undone. -/
  | rollbackFailed (cause : LibraryError)
  /-- A fault has ended the session before. -/
  | poisoned
  /-- An assumption of the program itself is broken. -/
  | internal (reason : String)

namespace LibraryError

/-- The wording of a library error. -/
def message : LibraryError → String
  | .validation cause => "Validation error: " ++ cause.message
  | .resolution cause => "Resolution error: " ++ cause.message
  | .storage cause => "Storage error: " ++ cause.message
  | .diverged operation keys entries stored =>
    "Namespace corrupted: after " ++ operation ++ ": " ++ natText keys ++ " keys, " ++
      natText entries ++ " entries, " ++ natText stored ++ " persisted"
  | .rollbackFailed cause =>
    "Namespace corrupted: rollback of transaction <id> failed: " ++ cause.message
  | .poisoned => "Library session terminated after a consistency fault"
  | .internal reason => "Internal error: " ++ reason

/-- Whether the error ends the session. -/
def isFatal : LibraryError → Bool
  | .diverged .. => true
  | .rollbackFailed _ => true
  | .poisoned => true
  | _ => false

/-- Whether another query may succeed where this one failed. -/
def isRecoverable : LibraryError → Bool
  | .validation _ => true
  | .resolution _ => true
  | _ => false

end LibraryError

end ShelfLibrary
