import SqlCondition.Condition.Basic
import SqlCondition.Json.Basic

/-!
# Conditions from JSON

JSON data read as values and as inputs. As a value, an object is its compact text;
as an input, it is a mapping, and an array is a list of inputs.
-/

namespace SqlCondition

/-- A JSON number as a value. An integer beyond 64 bits with sign is rounded. -/
def JsonNumber.toValue : JsonNumber → Value
  | .whole integer => (Value.ofInt? integer).getD (.float (.ofInt integer))
  | .real number => .float number

mutual

/-- JSON data as a value. -/
def Value.ofJson : Json → Value
  | .null => .null
  | .bool truth => .bool truth
  | .number number => number.toValue
  | .string content => .text content
  | .array items => .list (Value.ofJsons items)
  | .object members => .text (Json.compact (.object members))

/-- Several JSON data as values. -/
def Value.ofJsons : List Json → List Value
  | [] => []
  | item :: rest => Value.ofJson item :: Value.ofJsons rest

end

/-- Several JSON data are the value of each, in their order. -/
theorem Value.of_jsons_eq_map (items : List Json) : Value.ofJsons items = items.map Value.ofJson := by
  induction items with
  | nil => rfl
  | cons item rest inductionHypothesis => simp [Value.ofJsons, inductionHypothesis]

/-- The members of an object as a mapping. -/
def Table.ofJsonMembers (members : List (String × Json)) : Table Value :=
  .ofList (members.map fun entry => (entry.1, Value.ofJson entry.2))

mutual

/-- JSON data as an input. -/
def Input.ofJson : Json → Input
  | .object members => .fields (.ofJsonMembers members)
  | .array items => .list (Input.ofJsons items)
  | .string content => .text content
  | .null => .value (Value.ofJson .null)
  | .bool truth => .value (Value.ofJson (.bool truth))
  | .number number => .value (Value.ofJson (.number number))

/-- Several JSON data as inputs. -/
def Input.ofJsons : List Json → List Input
  | [] => []
  | item :: rest => Input.ofJson item :: Input.ofJsons rest

end

/-- Several JSON data are the input of each, in their order. -/
theorem Input.of_jsons_eq_map (items : List Json) : Input.ofJsons items = items.map Input.ofJson := by
  induction items with
  | nil => rfl
  | cons item rest inductionHypothesis => simp [Input.ofJsons, inductionHypothesis]

end SqlCondition
