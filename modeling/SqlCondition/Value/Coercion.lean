import SqlCondition.Decimal.Style
import SqlCondition.Text.Pieces
import SqlCondition.Text.Utf8
import SqlCondition.Value.Basic

/-!
# Coercions of values

Every value has a text. A temporal value is written as its date, with the time of
day behind it when the day does not just start. Values that a database takes as
they are stay themselves when they are bound; null, temporal values and bytes are
bound as their text, and lists member by member.
-/

namespace SqlCondition.Value

mutual

/-- The text of a value; null has the empty text, and the texts of a list's
members stand in brackets with spaces between. -/
def toText : Value → String
  | .null => ""
  | .bool truth => Text.shownBool truth
  | .int number => String.ofList (Text.signedDecimal number.toInt)
  | .float number => number.write .plain
  | .text content => content
  | .bytes content => Text.Utf8.decode content
  | .date day => day.text
  | .dateTime time => time.text
  | .list items => "[" ++ Text.join " " (texts items) ++ "]"

/-- The texts of several values. -/
def texts : List Value → List String
  | [] => []
  | item :: rest => item.toText :: texts rest

end

/-- The value as a list: null has no members, and any other value that is not a
list is its own only member. -/
def toList : Value → Value
  | .null => .list []
  | .list items => .list items
  | other => .list [other]

mutual

/-- The form in which the value of a mapping is bound. -/
def toWire : Value → Value
  | .null => .text (toText .null)
  | .date day => .text (toText (.date day))
  | .dateTime time => .text (toText (.dateTime time))
  | .bytes content => .text (toText (.bytes content))
  | .list items => .list (wires items)
  | other => other

/-- The bound forms of several values. -/
def wires : List Value → List Value
  | [] => []
  | item :: rest => item.toWire :: wires rest

end

/-- The text of a value with its time of day where it has one. -/
def toDateTimeText : Value → String
  | .date day => day.text
  | .dateTime time => time.text
  | other => other.toText

/-- The text of a value without the time of day. -/
def toDateText : Value → String
  | .date day => day.text
  | .dateTime time => time.date.text
  | other => other.toText

/-- The form in which an end of a range is bound. -/
def toRangeBound (value : Value) : Value :=
  if value.isTemporal then .text value.toDateTimeText else value.toWire

/-- The bound forms of several values are the bound form of each, in their order. -/
theorem wires_eq_map (items : List Value) : wires items = items.map toWire := by
  induction items with
  | nil => rfl
  | cons item rest inductionHypothesis => simp [wires, inductionHypothesis]

end SqlCondition.Value
