import Mathlib.Data.List.Forall2
import SqlCondition.Reduction

/-!
# The order in which keys were inserted

Two conditions are the same up to insertion order when they differ in nothing but the
order in which the keys of mappings were inserted, at any depth. Under the option that
takes keys in ascending order nothing of that order is left once a mapping is reduced:
its names are distinct, so its pairs have one ascending order only.

Everything else reads no mapping. Lists, texts and nodes are taken for the same nodes up
to insertion order and are refused for the same reason, and hooks see keys and values,
in which there are no mappings. So one layer of a reduction after another comes to the
very same outcome.
-/

namespace SqlCondition

mutual

/-- Two inputs are the same up to the order in which keys were inserted. -/
inductive Input.Reordered : Input → Input → Prop
  | fields {fields others : Table Value} (same : fields.entries.Perm others.entries) :
      Input.Reordered (.fields fields) (.fields others)
  | list {items others : List Input} (each : List.Forall₂ Input.Reordered items others) :
      Input.Reordered (.list items) (.list others)
  | text (content : String) : Input.Reordered (.text content) (.text content)
  | node {node other : Node} (same : Node.Reordered node other) :
      Input.Reordered (.node node) (.node other)
  | value (operand : Value) : Input.Reordered (.value operand) (.value operand)

/-- Two nodes are the same up to it. -/
inductive Node.Reordered : Node → Node → Prop
  | and {children others : List Input} (bare negated : Bool)
      (each : List.Forall₂ Input.Reordered children others) :
      Node.Reordered (.and children bare negated) (.and others bare negated)
  | or {children others : List Input} (negated : Bool)
      (each : List.Forall₂ Input.Reordered children others) :
      Node.Reordered (.or children negated) (.or others negated)
  | map {fields others : Table Value} (negated : Bool)
      (same : fields.entries.Perm others.entries) :
      Node.Reordered (.map fields negated) (.map others negated)
  | raw (sql : String) (values : List Value) (negated : Bool) :
      Node.Reordered (.raw sql values negated) (.raw sql values negated)

end

/-- Inserting the same pairs of distinct keys in two orders makes tables with the same entries.
As no key comes twice, nothing is overwritten. -/
theorem Table.of_list_perm {pairs others : List (String × Value)}
    (distinct : (pairs.map Prod.fst).Nodup) (same : pairs.Perm others) :
    (Table.ofList pairs).entries.Perm (Table.ofList others).entries := by
  have distinctToo : (others.map Prod.fst).Nodup := (same.map Prod.fst).nodup distinct
  rw [entries_of_list pairs distinct, entries_of_list others distinctToo]
  exact same

namespace Input

/-- Inputs that are the same up to insertion order are the same text, or none is. Only mappings
have an order that may differ. -/
theorem Reordered.as_text {one two : Input} (same : one.Reordered two) :
    one.asText = two.asText := by
  cases same <;> rfl

/-- They are the same value, or none is, for the same reason. -/
theorem Reordered.as_value {one two : Input} (same : one.Reordered two) :
    one.asValue = two.asValue := by
  cases same <;> rfl

/-- Lists of them are the same raw SQL, or none is. Raw SQL is made of a text and of values, and
mappings are neither. -/
theorem split_raw_reordered {items others : List Input}
    (each : List.Forall₂ Reordered items others) : splitRaw items = splitRaw others := by
  apply split_raw_congr
  · exact List.forall₂_eq_eq_eq ▸ List.rel_map (fun _ _ same => same.as_text) each
  · exact List.forall₂_eq_eq_eq ▸ List.rel_map (fun _ _ same => same.as_value) each

end Input

namespace Node

/-- Two inputs are taken for nodes that are the same up to insertion order, or they are
refused for the same reason. -/
inductive TakenReordered : Except ConditionIssue Node → Except ConditionIssue Node → Prop
  | ok {one two : Node} (same : one.Reordered two) : TakenReordered (.ok one) (.ok two)
  | error (issue : ConditionIssue) : TakenReordered (.error issue) (.error issue)

/-- Raw SQL is taken for the same node, or refused for the same reason, as it holds no mapping. -/
theorem of_raw_reordered (sql : String) (values : List Value) (negated : Bool) :
    TakenReordered (ofRaw sql values negated) (ofRaw sql values negated) := by
  unfold ofRaw
  split
  · exact .ok (.raw sql values negated)
  · exact .error _

/-- Inputs that are the same up to insertion order are, with the same values and the same
negation. -/
theorem of_input_reordered {input other : Input} (same : input.Reordered other)
    (values : List Value) (negated : Bool) :
    TakenReordered (ofInput input values negated) (ofInput other values negated) := by
  cases same with
  | fields same => exact .ok (.map negated same)
  | node same => exact .ok same
  | text content => exact of_raw_reordered content values negated
  | value operand =>
    cases operand with
    | text content => exact of_raw_reordered content values negated
    | _ => exact .error _
  | @list items others each =>
    simp only [ofInput, Input.split_raw_reordered each]
    cases Input.splitRaw others with
    | some parts => exact of_raw_reordered parts.1 parts.2 negated
    | none => exact .ok (.or negated each)

end Node

namespace Reduction

/-- A way of reducing nodes does not see in which order keys were inserted. -/
def OrderBlind (reduceNode : Node → Option Outcome) : Prop :=
  ∀ one two, Node.Reordered one two → reduceNode one = reduceNode two

/-- Inputs are reduced alike when nodes are: to the same outcome, with the same log. -/
theorem of_input_order_blind {reduceNode : Node → Option Outcome} (blind : OrderBlind reduceNode)
    (config : Config) {one two : Input} (same : one.Reordered two) :
    ofInput reduceNode config one = ofInput reduceNode config two := by
  have taken := Node.of_input_reordered same [] false
  unfold ofInput
  generalize Node.ofInput one [] false = first at taken
  generalize Node.ofInput two [] false = second at taken
  cases taken with
  | ok same => exact blind _ _ same
  | error issue => rfl

/-- So are several inputs one after another, up to the same issue. -/
theorem of_inputs_order_blind {reduceNode : Node → Option Outcome} (blind : OrderBlind reduceNode)
    (config : Config) {children others : List Input}
    (each : List.Forall₂ Input.Reordered children others) :
    Gathered.ofParts (ofInput reduceNode config) children =
      Gathered.ofParts (ofInput reduceNode config) others := by
  induction each with
  | nil => rfl
  | cons same _ inductionHypothesis =>
    simp only [Gathered.ofParts, of_input_order_blind blind config same, inductionHypothesis]

/-- With ascending keys the pairs of a mapping do not show the order of insertion, because
sorting the same entries gives one list. -/
theorem pairs_of_perm {config : Config} (sorted : config.sortKeys = true)
    {fields others : Table Value} (same : fields.entries.Perm others.entries) :
    pairs config fields = pairs config others := by
  simp only [pairs, sorted, if_true, Table.sorted_eq_of_perm same]

/-- One layer of reduction does not see the order of insertion when the layers below do not. A
mapping hands on its pairs in ascending order, and lists hand on their children. -/
theorem of_node_order_blind {reduceNode : Node → Option Outcome} (blind : OrderBlind reduceNode)
    (config : Config) (sorted : config.sortKeys = true) : OrderBlind (ofNode reduceNode config) := by
  intro one two same
  cases same with
  | and bare negated each => simp only [ofNode, of_inputs_order_blind blind config each]
  | or negated each => simp only [ofNode, of_inputs_order_blind blind config each]
  | map negated same => simp only [ofNode, pairs_of_perm sorted same]
  | raw sql values negated => rfl

end Reduction

/-- No depth of reduction sees the order of insertion when keys are taken in ascending order.
Each layer keeps what holds of those below. -/
theorem reduce_order_blind (config : Config) (sorted : config.sortKeys = true) (depth : Nat) :
    Reduction.OrderBlind (reduce config depth) := by
  induction depth with
  | zero => exact fun _ _ _ => rfl
  | succ depth inductionHypothesis =>
    exact Reduction.of_node_order_blind inductionHypothesis config sorted

/-- When keys are taken in ascending order, the order in which they were inserted does not
matter. Two inputs that are the same up to it are built to the same text and the same values,
complete or up to the same issue, with the same log, at every depth at which either of them is
built.

Keys are distinct, so sorting the entries of a mapping gives one list whatever order they were
in. Nothing else in a condition depends on that order, layer by layer. -/
theorem insertion_order_irrelevant (config : Config) (sorted : config.sortKeys = true)
    (input other : Input) (same : input.Reordered other) (values : List Value) (negated : Bool)
    (depth : Nat) :
    build depth config input values negated = build depth config other values negated := by
  have taken := Node.of_input_reordered same values negated
  unfold build
  generalize Node.ofInput input values negated = one at taken
  generalize Node.ofInput other values negated = two at taken
  cases taken with
  | ok same => simp only [reduce_order_blind config sorted depth _ _ same]
  | error issue => rfl

/-- A strict configuration with ascending keys, a hook that returns raw SQL, and an
operator that builds its clauses itself. -/
def ascendingConfig : Config :=
  let options : Options := { Options.default with strict := true, sortKeys := true }
  { Config.default.withOptions options with
    hooks := .ofList [("recent", fun _ operand _ => some (Input.raw "seen > ?" [operand]))]
    operators := Registry.builtin.insert "near"
      (.ofBuilder fun column operand _ => ⟨"near(" ++ column ++ ", ?)", [operand]⟩) }

/-- The pairs of a mapping. -/
def placePairs : List (String × Value) :=
  [("area__in", .list [.int 2, .int 3]), ("place__near", .int 4), ("recent", .int 1)]

/-- The pairs of another one, of which two name no operator. -/
def agePairs : List (String × Value) :=
  [("age", .int 6), ("y__odd", .null), ("z__nope", .int 5)]

/-- A list of two mappings, the second one in a node, whose pairs are inserted in a given
order. -/
def arrangedInput (arrange : List (String × Value) → List (String × Value)) : Input :=
  .list [.fields (.ofList (arrange placePairs)),
    .node (.and [.node (.map (.ofList (arrange agePairs)) true)] true false), .value .null]

/-- Inserting in the reverse order makes no other difference, in the list and inside its node. -/
theorem arranged_reordered : (arrangedInput List.reverse).Reordered (arrangedInput id) := by
  have place := Table.of_list_perm (by decide) (List.reverse_perm placePairs)
  have age := Table.of_list_perm (by decide) (List.reverse_perm agePairs)
  exact .list (.cons (.fields place)
    (.cons (.node (.and true false (.cons (.node (.map true age)) .nil))) (.cons (.value _) .nil)))

/-- Two mappings with their pairs inserted the other way round, one inside a negated node, are
built to the same clause, up to the same unknown operator. -/
theorem reversed_insertion_irrelevant :
    ascendingConfig.sortKeys = true ∧ (arrangedInput List.reverse).Reordered (arrangedInput id) ∧
      build 3 ascendingConfig (arrangedInput List.reverse) [] false =
        build 3 ascendingConfig (arrangedInput id) [] false ∧
      ∃ built log, build 3 ascendingConfig (arrangedInput id) [] false = some (built, log) ∧
        built.clause.sql = "((\"area\" IN (?) AND near(\"place\", ?) AND (seen > ?)) OR " ++
          "NOT (\"age\" = ?))" ∧
        built.clause.values = [.list [.int 2, .int 3], .int 4, .int 1, .int 6] ∧
        built.issue = some (.invalid (.text "y__odd") (some [.null])) := by
  refine ⟨rfl, arranged_reordered, ?_, ?_⟩
  · exact insertion_order_irrelevant ascendingConfig rfl _ _ arranged_reordered [] false 3
  · -- The sorting of the pairs does not compute, but they are in ascending order already.
    have place : Reduction.pairs ascendingConfig (.ofList placePairs) = placePairs :=
      List.mergeSort_of_pairwise (by decide)
    have age : Reduction.pairs ascendingConfig (.ofList agePairs) = agePairs :=
      List.mergeSort_of_pairwise (by decide)
    simp only [build, arrangedInput, id, Node.ofInput, Input.splitRaw, Input.asText, reduce,
      Reduction.ofNode, Reduction.ofInput, Gathered.ofParts, place, age, Option.bind_eq_bind,
      Option.bind_none]
    refine ⟨_, _, rfl, ?_, rfl, rfl⟩
    decide +kernel

end SqlCondition
