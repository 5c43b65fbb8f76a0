import SqlCondition.Binary.Double
import SqlCondition.Calendar.DateTime

/-!
# Values

A value is what a condition compares a column with, and what a placeholder of the
resulting clause is bound to. Lists may be nested.
-/

namespace SqlCondition

/-- An operand of a condition, or a bound parameter. -/
inductive Value
  | null
  | bool (truth : Bool)
  | int (number : Int64)
  | float (number : Double)
  | text (text : String)
  | bytes (bytes : List UInt8)
  | date (date : Date)
  | dateTime (time : DateTime)
  | list (items : List Value)

namespace Value

/-- Whether the value is null. -/
def isNull : Value → Bool
  | .null => true
  | _ => false

/-- Whether the value is a list. -/
def isList : Value → Bool
  | .list _ => true
  | _ => false

/-- Whether the value is a date, with or without a time of day. -/
def isTemporal : Value → Bool
  | .date _ | .dateTime _ => true
  | _ => false

/-- The text that the value is, if it is one. -/
def asText : Value → Option String
  | .text content => some content
  | _ => none

/-- The truth value that the value is, if it is one. -/
def asBool : Value → Option Bool
  | .bool truth => some truth
  | _ => none

/-- The members of the value, if it is a list. -/
def asList : Value → Option (List Value)
  | .list items => some items
  | _ => none

/-- An integer, when it fits in 64 bits. -/
def ofInt? (integer : Int) : Option Value :=
  if Int64.minValue.toInt ≤ integer ∧ integer ≤ Int64.maxValue.toInt then
    some (.int (Int64.ofInt integer))
  else none

end Value

end SqlCondition
