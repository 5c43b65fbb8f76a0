import SqlCondition.Json.Conversion
import SqlCondition.Reduction

/-!
# Raw SQL from JSON

A JSON array that starts with a string is raw SQL when plain values follow, as it is when
it is written down as an input. JSON data are converted in two ways, to values and to
inputs. The two agree on null, truth values, numbers and strings: these are operands
either way, and the same ones. They differ on arrays and objects. As values these are
operands, a list and a text; as inputs they are conditions, a disjunction and a mapping, so
that a JSON array with one of them behind its string is no raw SQL but a disjunction.
-/

namespace SqlCondition

/-- Whether JSON data have no parts. -/
def Json.isScalar : Json → Bool
  | .array _ | .object _ => false
  | _ => true

/-- As an input, JSON data without parts are the value that they are. Arrays and objects are no
values but conditions. -/
theorem Input.as_value_of_json (item : Json) :
    (Input.ofJson item).asValue = if item.isScalar then some (Value.ofJson item) else none := by
  cases item <;> rfl

/-- Several JSON data are values together when none of them has parts. One array or object among
them is enough for the list to be no raw SQL. -/
theorem Input.values_of_jsons (items : List Json) :
    Input.valuesOf (items.map Input.ofJson) =
      if items.all Json.isScalar then some (items.map Value.ofJson) else none := by
  induction items with
  | nil => rfl
  | cons item rest inductionHypothesis =>
    simp only [List.map_cons, Input.valuesOf, Input.as_value_of_json, inductionHypothesis,
      List.all_cons]
    cases item.isScalar <;> cases rest.all Json.isScalar <;> rfl

/-- A string and JSON data behind it are raw SQL exactly when none of the data has parts. -/
theorem Input.split_raw_of_jsons (sql : String) {items : List Json} (nonempty : items ≠ []) :
    Input.splitRaw (.text sql :: items.map Input.ofJson) =
      if items.all Json.isScalar then some (sql, items.map Value.ofJson) else none := by
  cases items with
  | nil => exact absurd rfl nonempty
  | cons item rest =>
    have values := Input.values_of_jsons (item :: rest)
    rw [List.map_cons] at values
    rw [List.map_cons, Input.splitRaw, values]
    cases (item :: rest).all Json.isScalar <;> rfl

namespace Node

variable (sql : String) (values : List Value) (negated : Bool)

/-- A JSON array of a string and data without parts is raw SQL with these as its values. -/
theorem of_json_fragment {items : List Json} (nonempty : items ≠ [])
    (scalars : items.all Json.isScalar = true) :
    ofInput (Input.ofJson (.array (.string sql :: items))) values negated =
      ofRaw sql (items.map Value.ofJson) negated := by
  rw [Input.ofJson, Input.of_jsons_eq_map, List.map_cons, Input.ofJson, ofInput,
    Input.split_raw_of_jsons sql nonempty, scalars]
  rfl

/-- With an array or an object among the data the JSON array is a disjunction, and the text in
front is the first of its items. -/
theorem of_json_alternatives {items : List Json} (nonempty : items ≠ [])
    (parts : items.all Json.isScalar = false) :
    ofInput (Input.ofJson (.array (.string sql :: items))) values negated =
      .ok (.or (.text sql :: items.map Input.ofJson) negated) := by
  rw [Input.ofJson, Input.of_jsons_eq_map, List.map_cons, Input.ofJson, ofInput,
    Input.split_raw_of_jsons sql nonempty, parts]
  rfl

/-- Raw SQL written as a list has the values behind it, and values given beside the list are not
used. -/
theorem of_input_raw {operands : List Value} (nonempty : operands ≠ []) :
    ofInput (Input.raw sql operands) values negated = ofRaw sql operands negated := by
  cases operands with
  | nil => exact absurd rfl nonempty
  | cons first rest => rw [Input.raw, ofInput, split_raw_of_raw]

end Node

/-- From a JSON array of a string and data without parts the same is built as from raw SQL with
the values of these data, whatever the configuration and the values given beside it, negated or
not. With an array or an object among the data, the JSON array is the disjunction of its items,
each of them a condition of its own.

Both inputs are taken for the same node: data without parts are values in a list as they are in
raw SQL, while an array or an object is a list or a mapping and no value. -/
theorem json_fragment_builds_alike (sql : String) (items : List Json) (nonempty : items ≠ [])
    (depth : Nat) (config : Config) (values : List Value) (negated : Bool) :
    (items.all Json.isScalar = true → ∃ result,
        build (depth + 1) config (Input.ofJson (.array (.string sql :: items))) values negated =
            some result ∧
          build (depth + 1) config (Input.raw sql (items.map Value.ofJson)) values negated =
            some result) ∧
      (items.all Json.isScalar = false →
        Node.ofInput (Input.ofJson (.array (.string sql :: items))) values negated =
          .ok (.or (.text sql :: items.map Input.ofJson) negated)) := by
  refine ⟨fun scalars => ?_, Node.of_json_alternatives sql values negated nonempty⟩
  have written : items.map Value.ofJson ≠ [] := by simpa using nonempty
  have json := Node.of_json_fragment sql values negated nonempty scalars
  have list := Node.of_input_raw sql values negated written
  obtain ⟨result, built⟩ : ∃ result,
      build (depth + 1) config (Input.raw sql (items.map Value.ofJson)) values negated =
        some result := by
    rw [build, list, Node.ofRaw]
    by_cases fits : Placeholder.count sql = (items.map Value.ofJson).length
    · rw [if_pos fits]
      exact ⟨_, rfl⟩
    · rw [if_neg fits]
      exact ⟨_, rfl⟩
  refine ⟨result, ?_, built⟩
  rw [← built, build, build, json, list]

/-- A negated fragment with null, a text that looks like a placeholder, and a number. Both forms
of it build the same clause, and the value given beside them is not bound. -/
theorem plain_fragment_builds_alike :
    ∃ result,
      build 1 Config.default (Input.ofJson (.array [.string "a IS ? AND b = ? AND c > ?", .null,
          .string "?", .number (.whole 3)])) [.int 4] true = some result ∧
        build 1 Config.default (Input.raw "a IS ? AND b = ? AND c > ?" [.null, .text "?", .int 3])
          [.int 4] true = some result ∧
        result.1.clause =
          ⟨"NOT (a IS ? AND b = ? AND c > ?)", [.null, .text "?", .int 3]⟩ := by
  obtain ⟨result, json, list⟩ := (json_fragment_builds_alike "a IS ? AND b = ? AND c > ?"
    [.null, .string "?", .number (.whole 3)] (by simp) 0 Config.default [.int 4] true).1 rfl
  refine ⟨result, json, list, ?_⟩
  rw [← Option.some.inj list]
  rfl

/-- An array behind a string is an operand as a value but no operand as an input: the list
that is written down is raw SQL, and nothing is left of the JSON array. -/
theorem nested_array_lost :
    ∃ json list,
      build 3 Config.default (Input.ofJson (.array [.string "id IN (?)",
          .array [.number (.whole 1), .number (.whole 2)]])) [] false = some json ∧
        build 3 Config.default (Input.raw "id IN (?)"
          [Value.ofJson (.array [.number (.whole 1), .number (.whole 2)])]) [] false = some list ∧
        json.1.clause.sql = "" ∧ list.1.clause.sql = "(id IN (?))" :=
  ⟨_, _, rfl, rfl, rfl, rfl⟩

end SqlCondition
