import ShelfLibrary.Operator
import ShelfLibrary.Path
import ShelfLibrary.Pattern.Parser
import ShelfLibrary.Value.Plain

/-!
# Filters

A filter is an expression in infix notation: conditions and groups with a connective between each
two.  What `Condition.make`, `Group.make` and `Filters.make` return is well formed; they refuse
everything else and say where the fault lies.
-/

namespace ShelfLibrary

/-- What joins two operands of a filter. -/
inductive Connective where
  /-- Both operands hold. -/
  | and
  /-- One of the operands holds. -/
  | or
deriving DecidableEq, Repr

namespace Connective

/-- The token of a connective. -/
def token : Connective → String
  | .and => "AND"
  | .or => "OR"

/-- The connective of a token. -/
def ofToken? : String → Option Connective
  | "AND" => some .and
  | "OR" => some .or
  | _ => none

/-- The connective applied to two truth values. -/
def apply : Connective → Bool → Bool → Bool
  | .and, left, right => left && right
  | .or, left, right => left || right

end Connective

/-- A comparison of two operands, each a literal value or a path to one. -/
structure Condition where
  /-- The first operand. -/
  left : Value
  /-- The comparison. -/
  operator : Operator
  /-- The second operand. -/
  right : Value
  /-- Whether the first operand is a path. -/
  leftIsPath : Bool
  /-- Whether the second operand is a path. -/
  rightIsPath : Bool
deriving BEq

namespace Condition

/-- An operand that is marked as a path has to be one. -/
def checkPath (side : String) (operand : Value) : Except ValidationError Unit :=
  match operand.asText? with
  | some path => if Path.isValid path then .ok () else .error (.invalidPath path)
  | none => .error (.invalidField side (.notAPath operand.kind))

/-- The pattern of a match has to be one, as far as it is given literally. -/
def checkPattern (operand : Value) : Except ValidationError Unit :=
  match operand.asText? with
  | none => .error (.invalidField "right" .patternNotText)
  | some source =>
    if (Pattern.ofText? source).isSome then .ok ()
    else .error (.invalidField "right" (.badPattern source))

/-- A condition has an operand that is a path, and each operand can be what it is marked as. -/
def validate (condition : Condition) : Except ValidationError Unit := do
  if !condition.leftIsPath && !condition.rightIsPath then
    throw .ambiguousCondition
  if condition.leftIsPath then
    checkPath "left" condition.left
  if condition.rightIsPath then
    checkPath "right" condition.right
  if condition.operator = .matchesPattern && !condition.rightIsPath then
    checkPattern condition.right

/-- The condition of two operands and the token of an operator. -/
def make (left : Value) (operator : String) (right : Value) (leftIsPath rightIsPath : Bool) :
    Except ValidationError Condition := do
  let condition : Condition := ⟨left, ← Operator.parse operator, right, leftIsPath, rightIsPath⟩
  condition.validate
  return condition

/-- The paths among the operands. -/
def paths (condition : Condition) : List String :=
  (if condition.leftIsPath then condition.left.asText?.toList else []) ++
    (if condition.rightIsPath then condition.right.asText?.toList else [])

/-- The document of a condition. -/
def toJson (condition : Condition) : Json :=
  .object [
    ("left", condition.left.toJson),
    ("operator", .text condition.operator.token),
    ("right", condition.right.toJson),
    ("left_is_path", .bool condition.leftIsPath),
    ("right_is_path", .bool condition.rightIsPath)]

end Condition

/-- An element of a filter. -/
inductive FilterItem where
  /-- A comparison. -/
  | condition (condition : Condition)
  /-- An expression in parentheses. -/
  | group (items : List FilterItem)
  /-- What joins the operands around it. -/
  | connective (connective : Connective)

namespace FilterItem

/-- Whether an element is a connective. -/
def isConnective : FilterItem → Bool
  | .connective _ => true
  | _ => false

/-- The connective of a token as an element. -/
def ofToken (token : String) : Except ValidationError FilterItem :=
  match Connective.ofToken? token with
  | some found => .ok (.connective found)
  | none => .error (.malformedGroup 0 (.unknownConnective token))

mutual

/-- Equality of elements. -/
def same : FilterItem → FilterItem → Bool
  | .condition a, .condition b => a == b
  | .group a, .group b => sameItems a b
  | .connective a, .connective b => a == b
  | _, _ => false

/-- Equality of lists of elements. -/
def sameItems : List FilterItem → List FilterItem → Bool
  | [], [] => true
  | x :: xs, y :: ys => same x y && sameItems xs ys
  | _, _ => false

end

instance : BEq FilterItem := ⟨same⟩

mutual

/-- The paths in an element, from left to right. -/
def paths : FilterItem → List String
  | .condition leaf => leaf.paths
  | .group items => pathsOfItems items
  | .connective _ => []

/-- The paths in a list of elements. -/
def pathsOfItems : List FilterItem → List String
  | [] => []
  | item :: rest => paths item ++ pathsOfItems rest

end

mutual

/-- How many groups an element nests. -/
def depth : FilterItem → Nat
  | .group items => 1 + depthOfItems items
  | _ => 0

/-- The greatest number of groups that an element of a list nests. -/
def depthOfItems : List FilterItem → Nat
  | [] => 0
  | item :: rest => max (depth item) (depthOfItems rest)

end

mutual

/-- The document of an element. -/
def toJson : FilterItem → Json
  | .condition leaf => .object [("condition", leaf.toJson)]
  | .group items => .object [("group", .list (toJsonItems items))]
  | .connective joint => .text joint.token

/-- The documents of a list of elements. -/
def toJsonItems : List FilterItem → List Json
  | [] => []
  | item :: rest => toJson item :: toJsonItems rest

end

end FilterItem

/-- Goes through the elements after the first; `afterConnective` tells what the one before is. -/
def checkAlternation (position : Nat) (afterConnective : Bool) :
    List FilterItem → Except ValidationError Unit
  | [] => .ok ()
  | item :: rest =>
    if item.isConnective && rest.isEmpty then .error (.malformedGroup position .connectiveAtEnd)
    else if item.isConnective == afterConnective then
      .error (.malformedGroup position (if item.isConnective then .connectives else .operands))
    else checkAlternation (position + 1) item.isConnective rest

/-- A list of elements is an expression if operands and connectives alternate and an operand stands
at either end. -/
def checkExpression : List FilterItem → Except ValidationError Unit
  | [] => .error .emptyGroup
  | item :: rest =>
    if item.isConnective then .error (.malformedGroup 0 .connectiveAtEnd)
    else checkAlternation 1 false rest

/-- A group of elements. -/
def FilterItem.makeGroup (items : List FilterItem) : Except ValidationError FilterItem := do
  checkExpression items
  return .group items

/-- The filter of a query. -/
structure Filters where
  /-- The elements. -/
  items : List FilterItem
deriving BEq

namespace Filters

/-- The filter of a list of elements. -/
def make (items : List FilterItem) : Except ValidationError Filters := do
  checkExpression items
  return ⟨items⟩

/-- The filter of one condition. -/
def single (condition : Condition) : Filters :=
  ⟨[.condition condition]⟩

/-- The paths in a filter, from left to right. -/
def paths (filters : Filters) : List String :=
  FilterItem.pathsOfItems filters.items

/-- The document of a filter. -/
def toJson (filters : Filters) : Json :=
  .list (FilterItem.toJsonItems filters.items)

end Filters

end ShelfLibrary
