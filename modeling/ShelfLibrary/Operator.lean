import ShelfLibrary.Error

/-!
# Operators

The comparisons that a condition can make, each with the token that stands for it in a query.
-/

namespace ShelfLibrary

/-- The families of operators. -/
inductive OperatorFamily where
  /-- Order and equality. -/
  | comparison
  /-- Tests of texts. -/
  | text
  /-- Tests of lists and sizes. -/
  | collection
  /-- Tests of truth. -/
  | logical
  /-- Exact equality and kinds. -/
  | identity
  /-- Comparison of absolute values. -/
  | numeric
  /-- Comparison of dates and times. -/
  | dateTime
deriving DecidableEq, Repr

/-- A comparison. -/
inductive Operator where
  | equal | notEqual | greaterThan | lessThan | greaterThanOrEqual | lessThanOrEqual
  | contains | startsWith | endsWith | matchesPattern
  | isIn | notIn | any | all | none | lengthEqual | lengthGreaterThan | lengthLessThan
  | and | or | not
  | is | isNot | isInstance
  | absEqual | absGreaterThan | absLessThan
  | dateEqual | dateBefore | dateAfter | dateWithin
deriving DecidableEq, Repr

namespace Operator

/-- Every operator, family by family. -/
def every : List Operator :=
  [.equal, .notEqual, .greaterThan, .lessThan, .greaterThanOrEqual, .lessThanOrEqual,
    .contains, .startsWith, .endsWith, .matchesPattern,
    .isIn, .notIn, .any, .all, .none, .lengthEqual, .lengthGreaterThan, .lengthLessThan,
    .and, .or, .not,
    .is, .isNot, .isInstance,
    .absEqual, .absGreaterThan, .absLessThan,
    .dateEqual, .dateBefore, .dateAfter, .dateWithin]

/-- The token of an operator. -/
def token : Operator → String
  | .equal => "=="
  | .notEqual => "!="
  | .greaterThan => ">"
  | .lessThan => "<"
  | .greaterThanOrEqual => ">="
  | .lessThanOrEqual => "<="
  | .contains => "contains"
  | .startsWith => "starts_with"
  | .endsWith => "ends_with"
  | .matchesPattern => "matches"
  | .isIn => "in"
  | .notIn => "not in"
  | .any => "any"
  | .all => "all"
  | .none => "none"
  | .lengthEqual => "length_eq"
  | .lengthGreaterThan => "length_gt"
  | .lengthLessThan => "length_lt"
  | .and => "and"
  | .or => "or"
  | .not => "not"
  | .is => "is"
  | .isNot => "is_not"
  | .isInstance => "isinstance"
  | .absEqual => "abs_eq"
  | .absGreaterThan => "abs_gt"
  | .absLessThan => "abs_lt"
  | .dateEqual => "date_eq"
  | .dateBefore => "date_before"
  | .dateAfter => "date_after"
  | .dateWithin => "date_within"

/-- The family of an operator. -/
def family : Operator → OperatorFamily
  | .equal | .notEqual | .greaterThan | .lessThan | .greaterThanOrEqual | .lessThanOrEqual =>
    .comparison
  | .contains | .startsWith | .endsWith | .matchesPattern => .text
  | .isIn | .notIn | .any | .all | .none | .lengthEqual | .lengthGreaterThan | .lengthLessThan =>
    .collection
  | .and | .or | .not => .logical
  | .is | .isNot | .isInstance => .identity
  | .absEqual | .absGreaterThan | .absLessThan => .numeric
  | .dateEqual | .dateBefore | .dateAfter | .dateWithin => .dateTime

/-- The operator of a token. -/
def ofToken? (token : String) : Option Operator :=
  every.find? fun operator => operator.token == token

/-- The operator of a token, or the refusal of the token. -/
def parse (token : String) : Except ValidationError Operator :=
  match ofToken? token with
  | some operator => .ok operator
  | Option.none => .error (.invalidOperator token)

/-- Every token, for the reader of an error. -/
def allowedTokens : String :=
  ", ".intercalate (every.map token)

theorem mem_every (operator : Operator) : operator ∈ every := by
  cases operator <;> decide

theorem ofToken?_token (operator : Operator) : ofToken? operator.token = some operator := by
  cases operator <;> decide

end Operator

end ShelfLibrary
