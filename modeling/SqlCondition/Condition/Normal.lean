import SqlCondition.Clause.Placeholder
import SqlCondition.Condition.Issue

/-!
# From inputs to nodes

An input becomes a node once its connective is decided. A mapping is a conjunction
of its pairs; a list is raw SQL when it starts with a text that only plain values
follow, and a disjunction of its items otherwise; a text is raw SQL with the values
given beside it. Raw SQL has as many placeholders as values. A ready node is taken
as it is, and no other value is a condition.
-/

namespace SqlCondition

/-- The refusal of an input; values are mentioned when there are some. -/
def ConditionIssue.refusal (input : Input) (values : List Value) : ConditionIssue :=
  .invalid input (if values.isEmpty then none else some values)

/-- The values that several inputs are, when all are. -/
def Input.valuesOf : List Input → Option (List Value)
  | [] => some []
  | item :: rest => do
      let value ← item.asValue
      let values ← Input.valuesOf rest
      pure (value :: values)

/-- The text and the values of a list that is raw SQL. -/
def Input.splitRaw : List Input → Option (String × List Value)
  | head :: next :: rest => do
      let sql ← head.asText
      let values ← Input.valuesOf (next :: rest)
      pure (sql, values)
  | _ => none

/-- The values that inputs are depend on what each of them is as a value. -/
theorem Input.values_of_congr {items others : List Input}
    (values : items.map Input.asValue = others.map Input.asValue) :
    Input.valuesOf items = Input.valuesOf others := by
  induction items generalizing others with
  | nil =>
    cases others with
    | nil => rfl
    | cons next more => cases values
  | cons item rest inductionHypothesis =>
    cases others with
    | nil => cases values
    | cons next more =>
      obtain ⟨first, later⟩ := List.cons.inj values
      simp only [Input.valuesOf, first, inductionHypothesis later]

/-- Whether a list is raw SQL, and which, depends on what its items are as texts and as
values. -/
theorem Input.split_raw_congr {items others : List Input}
    (texts : items.map Input.asText = others.map Input.asText)
    (values : items.map Input.asValue = others.map Input.asValue) :
    Input.splitRaw items = Input.splitRaw others := by
  have amount : items.length = others.length := by
    simpa using congrArg List.length texts
  match items, others with
  | [], [] => rfl
  | [_], [_] => rfl
  | head :: next :: rest, first :: second :: more =>
    have text : head.asText = first.asText := (List.cons.inj texts).1
    have operands := Input.values_of_congr (List.cons.inj values).2
    simp only [Input.splitRaw, text, operands]
  | [], _ :: _ | _ :: _, [] | [_], _ :: _ :: _ | _ :: _ :: _, [_] => simp at amount

namespace Node

/-- Raw SQL, refused unless it has as many placeholders as values. -/
def ofRaw (sql : String) (values : List Value) (negated : Bool) : Except ConditionIssue Node :=
  if Placeholder.count sql = values.length then .ok (.raw sql values negated)
  else .error (.refusal (.text sql) values)

/-- The node that an input is, with the values given beside it. -/
def ofInput (input : Input) (values : List Value) (negated : Bool) : Except ConditionIssue Node :=
  match input with
  | .node node => .ok node
  | .fields fields => .ok (.map fields negated)
  | .list items =>
      match Input.splitRaw items with
      | some (sql, operands) => ofRaw sql operands negated
      | none => .ok (.or items negated)
  | .text sql => ofRaw sql values negated
  | .value (.text sql) => ofRaw sql values negated
  | .value operand => .error (.refusal (.value operand) values)

/-- What an input is taken for, with the values given beside it. -/
inductive Taken (values : List Value) (negated : Bool) : Input → Node → Prop
  | node (node : Node) : Taken values negated (.node node) node
  | fields (fields : Table Value) : Taken values negated (.fields fields) (.map fields negated)
  | alternatives {items : List Input} (apart : Input.splitRaw items = none) :
      Taken values negated (.list items) (.or items negated)
  | list {items : List Input} {sql : String} {operands : List Value}
      (split : Input.splitRaw items = some (sql, operands))
      (fits : Placeholder.count sql = operands.length) :
      Taken values negated (.list items) (.raw sql operands negated)
  | text {input : Input} {sql : String} (spelled : input.asText = some sql)
      (fits : Placeholder.count sql = values.length) :
      Taken values negated input (.raw sql values negated)

/-- Raw SQL is accepted as it is when it has as many placeholders as values. -/
theorem of_raw_ok {sql : String} {values : List Value} {negated : Bool} {node : Node}
    (accepted : ofRaw sql values negated = .ok node) :
    Placeholder.count sql = values.length ∧ .raw sql values negated = node := by
  unfold ofRaw at accepted
  split at accepted
  · rename_i fits
    exact ⟨fits, Except.ok.inj accepted⟩
  · cases accepted

/-- An input that is accepted is taken for a node in one of these ways. -/
theorem of_input_taken {input : Input} {values : List Value} {negated : Bool} {node : Node}
    (accepted : ofInput input values negated = .ok node) : Taken values negated input node := by
  unfold ofInput at accepted
  split at accepted
  · cases accepted
    exact .node node
  · cases accepted
    exact .fields _
  · split at accepted
    · rename_i split
      obtain ⟨fits, rfl⟩ := of_raw_ok accepted
      exact .list split fits
    · rename_i apart
      cases accepted
      exact .alternatives apart
  · obtain ⟨fits, rfl⟩ := of_raw_ok accepted
    exact .text rfl fits
  · obtain ⟨fits, rfl⟩ := of_raw_ok accepted
    exact .text rfl fits
  · cases accepted

/-- Raw SQL written as a list keeps its text and values. There has to be a value, as a list of
one text is not raw SQL. -/
theorem split_raw_of_raw (sql : String) (first : Value) (rest : List Value) :
    Input.splitRaw (.text sql :: (first :: rest).map .value) = some (sql, first :: rest) := by
  have values (items : List Value) : Input.valuesOf (items.map .value) = some items := by
    induction items with
    | nil => rfl
    | cons item tail inductionHypothesis =>
      simp [Input.valuesOf, Input.asValue, inductionHypothesis]
  have both := values (first :: rest)
  simp only [List.map_cons] at both ⊢
  simp [Input.splitRaw, Input.asText, both]

end Node

end SqlCondition
