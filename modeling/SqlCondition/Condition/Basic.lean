import SqlCondition.Table
import SqlCondition.Value.Basic

/-!
# Conditions

Conditions come in two layers. An input is what a caller writes down: a mapping of
keys to values, a list of alternatives, raw SQL text, a ready node, or a value. A
node is a condition whose connective is decided: a conjunction, a disjunction, a
mapping, or raw SQL with its values. The children of a node are inputs again.
-/

namespace SqlCondition

mutual

/-- A condition as it is written down. -/
inductive Input
  | fields (fields : Table Value)
  | list (items : List Input)
  | text (content : String)
  | node (node : Node)
  | value (value : Value)

/-- A condition whose connective is decided. A bare conjunction needs no
parentheses around it. -/
inductive Node
  | and (children : List Input) (bare negated : Bool)
  | or (children : List Input) (negated : Bool)
  | map (fields : Table Value) (negated : Bool)
  | raw (sql : String) (values : List Value) (negated : Bool)

end

namespace Input

/-- A list of raw SQL text and the values for its placeholders. -/
def raw (sql : String) (values : List Value) : Input :=
  .list (.text sql :: values.map .value)

/-- The text that the input is, written as text or as a value. -/
def asText : Input → Option String
  | .text content => some content
  | .value (.text content) => some content
  | _ => none

/-- The value that the input is; a text is also one. -/
def asValue : Input → Option Value
  | .text content => some (.text content)
  | .value operand => some operand
  | _ => none

end Input

namespace Node

/-- The conjunction of nothing, without parentheses. -/
def bare : Node := .and [] true false

/-- The node with the opposite meaning. A node that is negated stays negated. -/
def negated : Node → Node
  | .and children bare _ => .and children bare true
  | .or children _ => .or children true
  | .map fields _ => .map fields true
  | .raw sql values _ => .raw sql values true

/-- Whether the node is negated. -/
def isNegated : Node → Bool
  | .and _ _ negated | .or _ negated | .map _ negated | .raw _ _ negated => negated

/-- How many parts the node has; raw SQL has none. -/
def size : Node → Nat
  | .and children _ _ | .or children _ => children.length
  | .map fields _ => fields.size
  | .raw _ _ _ => 0

/-- Whether the node has no parts, or no SQL. -/
def isEmpty : Node → Bool
  | .raw sql _ _ => sql.isEmpty
  | other => other.size = 0

/-- A conjunction with one more child; other nodes take no children. -/
def push (parent child : Node) : Node :=
  match parent with
  | .and children bare negated => .and (children ++ [.node child]) bare negated
  | other => other

/-- A conjunction that wants parentheses; other nodes always do. -/
def enclosed : Node → Node
  | .and children _ negated => .and children false negated
  | other => other

end Node

end SqlCondition
