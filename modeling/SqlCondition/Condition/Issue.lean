import SqlCondition.Condition.Basic
import SqlCondition.Decimal.Style
import SqlCondition.Text.Digits
import SqlCondition.Text.Pieces

/-!
# Refused conditions

The shown forms of values, inputs and nodes, and the message about an input that is no
condition. The shown form of a value names its kind, so that values of different kinds
with the same text can be told apart.

A log shows more of the work on conditions: parts that were left out, operators whose
aliases lead nowhere, and every clause that was built. Each entry has a severity and a
wording.
-/

namespace SqlCondition

namespace Value

mutual

/-- The shown form of a value. -/
def shown : Value → String
  | .null => "Null"
  | .bool truth => Text.called "Bool" (Text.shownBool truth)
  | .int number => Text.called "Int" (String.ofList (Text.signedDecimal number.toInt))
  | .float number => Text.called "Float" (number.write .shown)
  | .text content => Text.called "Text" (Text.quoted content)
  | .bytes content =>
      Text.called "Bytes"
        (Text.bracketed (content.map fun byte => String.ofList (Text.decimal byte.toNat)))
  | .date day => Text.called "Date" day.text
  | .dateTime time => Text.called "DateTime" time.shown
  | .list items => Text.called "List" (Text.bracketed (shownAll items))

/-- The shown forms of several values. -/
def shownAll : List Value → List String
  | [] => []
  | item :: rest => item.shown :: shownAll rest

end

end Value

/-- The shown form of a mapping: its entries in order. -/
def Table.shownFields (fields : Table Value) : String :=
  Text.record "Fields"
    [("entries", Text.bracketed (fields.entries.map fun entry =>
      "(" ++ Text.quoted entry.1 ++ ", " ++ entry.2.shown ++ ")"))]

mutual

/-- The shown form of an input. -/
def Input.shown : Input → String
  | .fields fields => Text.called "Fields" fields.shownFields
  | .list items => Text.called "List" (Text.bracketed (Input.shownAll items))
  | .text content => Text.called "Text" (Text.quoted content)
  | .node node => Text.called "Node" node.shown
  | .value operand => Text.called "Value" operand.shown

/-- The shown form of a node. -/
def Node.shown : Node → String
  | .and children bare negated =>
      Text.record "And"
        [("children", Text.bracketed (Input.shownAll children)), ("bare", Text.shownBool bare),
          ("negated", Text.shownBool negated)]
  | .or children negated =>
      Text.record "Or"
        [("children", Text.bracketed (Input.shownAll children)),
          ("negated", Text.shownBool negated)]
  | .map fields negated =>
      Text.record "Map" [("fields", fields.shownFields), ("negated", Text.shownBool negated)]
  | .raw sql values negated =>
      Text.record "Raw"
        [("sql", Text.quoted sql), ("values", Text.bracketed (Value.shownAll values)),
          ("negated", Text.shownBool negated)]

/-- The shown forms of several inputs. -/
def Input.shownAll : List Input → List String
  | [] => []
  | item :: rest => item.shown :: Input.shownAll rest

end

/-- Why a condition is refused. -/
inductive ConditionIssue
  /-- The input is no condition, or its values do not fit its placeholders. -/
  | invalid (input : Input) (values : Option (List Value))

/-- The wording of an issue. -/
def ConditionIssue.message : ConditionIssue → String
  | .invalid input values =>
      "Invalid condition: " ++ input.shown ++ " " ++
        Text.optional (values.map fun items => Text.bracketed (Value.shownAll items))

/-! ## Entries of the log -/

/-- How much attention an entry of the log wants. -/
inductive Severity
  | trace
  | debug
  | warning
  deriving DecidableEq

/-- An entry of the log. -/
inductive Event
  /-- A part of a condition was left out. -/
  | skipped (issue : ConditionIssue)
  /-- A condition was not added to a plan. -/
  | ignored (issue : ConditionIssue)
  /-- An operator was asked for whose aliases do not end. -/
  | aliasTooDeep (name : String)
  /-- A clause was built, with so many values, completely or not. -/
  | built (sql : String) (values : Nat) (failed : Bool)

namespace Event

/-- A refused part is of use to those who look for errors, a chain of aliases that
does not end is a mistake in the registry, and a clause is nothing special. -/
def severity : Event → Severity
  | .skipped _ | .ignored _ => .debug
  | .aliasTooDeep _ => .warning
  | .built _ _ _ => .trace

/-- The wording of an entry. -/
def message : Event → String
  | .skipped _ => "skipping invalid condition"
  | .ignored _ => "ignoring invalid condition"
  | .aliasTooDeep _ => "operator alias chain too deep (cycle?), treating as unknown"
  | .built _ _ _ => "built condition"

end Event

end SqlCondition
