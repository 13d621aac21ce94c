import ShelfLibrary.Filter.Basic
import ShelfLibrary.Value.Order

/-!
# Evaluating filters

A filter is read strictly from left to right: `a AND b OR c` is `(a AND b) OR c`, and groups come
first.  An operand that can no longer change the result is not looked at.  Paths are read by a given
resolver, so that evaluation has the effects of the resolver and no others.
-/

namespace ShelfLibrary

namespace Operator

/-- Whether some characters occur together in others. -/
def isPart (part : List Char) : List Char → Bool
  | [] => part.isEmpty
  | c :: rest => part.isPrefixOf (c :: rest) || isPart part rest

/-- Whether a value is a part of a text, an item of a list or the name of a field of a record. -/
def holds (whole part : Value) : Bool :=
  match whole, part with
  | .text s, .text t => isPart t.toList s.toList
  | .list items, part => items.any fun item => item.looseSame part
  | .record fields, .text name => Table.contains fields name
  | _, _ => false

/-- Whether a value equals another, or one of its items if that is a list. -/
def isAmong (value choice : Value) : Bool :=
  match choice with
  | .list choices => choices.any fun choice => value.looseSame choice
  | choice => value.looseSame choice

/-- The order of the length of a value and a whole number. -/
def compareLength? (value size : Value) : Option Ordering := do
  let length ← value.length?
  let size ← size.asInt?
  return compare (length : Int) size.toInt

/-- The order of two numbers by their absolute values. -/
def compareAbs? (left right : Value) : Option Ordering :=
  match left, right with
  | .int a, .int b => some (compare a.toInt.natAbs b.toInt.natAbs)
  | left, right => do
    let a ← left.asDouble?
    let b ← right.asDouble?
    a.abs.compare? b.abs

/-- A test of two points in time. -/
def testInstants (left right : Value) (test : Instant → Instant → Bool) : Bool :=
  match left.asInstant?, right.asInstant? with
  | some a, some b => test a b
  | _, _ => false

/-- Whether a point in time lies between two others, both included. -/
def isWithin (value bounds : Value) : Bool :=
  match value.asInstant?, bounds with
  | some moment, .list [first, last] =>
    match first.asInstant?, last.asInstant? with
    | some first, some last => (first.compare moment).isLE && (moment.compare last).isLE
    | _, _ => false
  | _, _ => false

/-- A test of two texts. -/
def testTexts (left right : Value) (test : List Char → List Char → Bool) : Bool :=
  match left, right with
  | .text a, .text b => test a.toList b.toList
  | _, _ => false

/-- An operator applied to the values of its operands.  Only a pattern that has not been checked
before can fail. -/
def apply (operator : Operator) (left right : Value) : Except ValidationError Bool :=
  match operator with
  | .equal => .ok (left.looseSame right)
  | .notEqual => .ok !left.looseSame right
  | .greaterThan => .ok ((left.compare? right).any Ordering.isGT)
  | .lessThan => .ok ((left.compare? right).any Ordering.isLT)
  | .greaterThanOrEqual => .ok ((left.compare? right).any Ordering.isGE)
  | .lessThanOrEqual => .ok ((left.compare? right).any Ordering.isLE)
  | .contains => .ok (holds left right)
  | .startsWith => .ok (testTexts left right fun whole part => part.isPrefixOf whole)
  | .endsWith => .ok (testTexts left right fun whole part => part.isSuffixOf whole)
  | .matchesPattern =>
    match left, right with
    | .text subject, .text source =>
      match Pattern.ofText? source with
      | some pattern => .ok (pattern.isMatch subject)
      | Option.none => .error (.invalidField "right" (.badPattern source))
    | _, _ => .ok false
  | .isIn => .ok (holds right left)
  | .notIn => .ok !holds right left
  | .any => .ok (left.asList?.any fun items => items.any fun item => isAmong item right)
  | .all =>
    .ok (left.asList?.any fun items => !items.isEmpty && items.all fun item => isAmong item right)
  | .none => .ok (left.asList?.any fun items => !items.any fun item => isAmong item right)
  | .lengthEqual => .ok ((compareLength? left right).any Ordering.isEq)
  | .lengthGreaterThan => .ok ((compareLength? left right).any Ordering.isGT)
  | .lengthLessThan => .ok ((compareLength? left right).any Ordering.isLT)
  | .and => .ok (left.isTruthy && right.isTruthy)
  | .or => .ok (left.isTruthy || right.isTruthy)
  | .not => .ok (left.isTruthy && !right.isTruthy)
  | .is => .ok (left.same right)
  | .isNot => .ok !left.same right
  | .isInstance =>
    .ok (right.asText?.any fun name => name == left.kind || (name == "number" && left.isNumber))
  | .absEqual => .ok ((compareAbs? left right).any Ordering.isEq)
  | .absGreaterThan => .ok ((compareAbs? left right).any Ordering.isGT)
  | .absLessThan => .ok ((compareAbs? left right).any Ordering.isLT)
  | .dateEqual => .ok (testInstants left right fun a b => a.day == b.day)
  | .dateBefore => .ok (testInstants left right fun a b => (a.compare b).isLT)
  | .dateAfter => .ok (testInstants left right fun a b => (a.compare b).isGT)
  | .dateWithin => .ok (isWithin left right)

end Operator

variable {m : Type → Type} [Monad m] [MonadExceptOf LibraryError m]

/-- The value of an operand: the literal itself, or what the resolver finds at the path. -/
def resolveOperand (resolve : String → m Value) (operand : Value) (isPath : Bool) : m Value :=
  if isPath then
    match operand.asText? with
    | some path => resolve path
    | none => pure .null
  else pure operand

/-- Whether a condition holds. -/
def Condition.evaluate (resolve : String → m Value) (condition : Condition) : m Bool := do
  let left ← resolveOperand resolve condition.left condition.leftIsPath
  let right ← resolveOperand resolve condition.right condition.rightIsPath
  match condition.operator.apply left right with
  | .ok result => pure result
  | .error e => throw (.validation e)

namespace FilterItem

/-- Whether a connective and the result so far leave nothing to be decided. -/
def isSettled : Connective → Bool → Bool
  | .and, result => !result
  | .or, result => result

mutual

/-- Whether an operand holds. -/
def evaluate (resolve : String → m Value) : FilterItem → m Bool
  | .condition leaf => leaf.evaluate resolve
  | .group items => evaluateItems resolve items
  | .connective joint =>
    throw (.internal ("connective '" ++ joint.token ++ "' in operand position"))

/-- Whether an expression holds; the empty one does. -/
def evaluateItems (resolve : String → m Value) : List FilterItem → m Bool
  | [] => pure true
  | first :: rest => do
    let result ← evaluate resolve first
    evaluateRest resolve result rest

/-- The result of an expression from the result of its beginning and what follows. -/
def evaluateRest (resolve : String → m Value) (result : Bool) : List FilterItem → m Bool
  | [] => pure result
  | .connective joint :: operand :: rest =>
    if isSettled joint result then evaluateRest resolve result rest
    else do
      let right ← evaluate resolve operand
      evaluateRest resolve (joint.apply result right) rest
  | [.connective _] => throw (.internal "filter ends with a connective")
  | _ :: _ => throw (.internal "filter operands are not separated by a connective")

end

end FilterItem

/-- Whether a filter holds. -/
def Filters.evaluate (resolve : String → m Value) (filters : Filters) : m Bool :=
  FilterItem.evaluateItems resolve filters.items

end ShelfLibrary
