import SqlCondition.Proofs.Formula
import SqlCondition.Proofs.Origin

/-!
# The leaves of a condition in order

A condition has its leaves in the order in which its parts stand: the items of a list, the
children of a node, the pairs of a mapping. A leaf is raw SQL in its parentheses, or the
comparison that a key makes. Under the strict option the row of leaves ends with the first
part that is refused; under any other such a part has none.

`Row.ofCondition` walks over a condition and lists these leaves. It joins nothing and knows
no connective. The main law is that the leaves of a reduction are this row, each once and in
this order, so that a reduction neither loses a leaf nor moves one.
-/

namespace SqlCondition

/-- Leaves from the left, those that say something, and whether the row has come to its
end. -/
structure Row where
  leaves : List Clause
  complete : Bool

namespace Row

/-- No leaves. -/
def silent : Row := ⟨[], true⟩

/-- One leaf, if it says something. -/
def ofClause (clause : Clause) : Row := ⟨if clause.isEmpty then [] else [clause], true⟩

/-- A refused part has no leaves, and under the strict option no part behind it has. -/
def refused (config : Config) : Row := ⟨[], !config.strict⟩

/-- One row in front of another. -/
def before (first later : Row) : Row := ⟨first.leaves ++ later.leaves, later.complete⟩

/-- The leaves of several parts, up to the first one that is not complete. -/
def ofParts {α : Type} (rowOf : α → Option Row) : List α → Option Row
  | [] => some silent
  | part :: rest =>
      match rowOf part with
      | none => none
      | some first => if first.complete then (ofParts rowOf rest).map first.before else some first

/-- The leaves of an input are those of the node for which it stands. -/
def ofInput (below : Node → Option Row) (config : Config) (input : Input) : Option Row :=
  match input.standsFor with
  | some node => below node
  | none => some (refused config)

/-- The leaf of a key without a hook: what the operator builds that it names or that is
inferred from the value. -/
def ofComparison (config : Config) (key : String) (value : Value) : Row :=
  let parts := config.splitKey key
  match (config.operators.select parts.2 value).1 with
  | some operator => ofClause (operator.build (config.column parts.1) value config.toOptions)
  | none => refused config

/-- The leaves of a pair. A hook gives those of the input that it returns. -/
def ofPair (below : Node → Option Row) (config : Config) (pair : String × Value) : Option Row :=
  match config.hooks.get? pair.1 with
  | none => some (ofComparison config pair.1 pair.2)
  | some hook =>
      match hook pair.1 pair.2 config.toOptions with
      | none => some silent
      | some input => ofInput below config input

/-- The leaf of raw SQL is the SQL in its parentheses, with its values. -/
def ofRaw (config : Config) (sql : String) (values : List Value) (negated : Bool) : Row :=
  if sql.isEmpty then silent
  else if Placeholder.count sql = values.length then
    ofClause (Clause.grouped negated ⟨sql, values⟩)
  else refused config

/-- The leaves of a node, given those of the nodes below. -/
def ofNode (below : Node → Option Row) (config : Config) : Node → Option Row
  | .and children _ _ => ofParts (ofInput below config) children
  | .or children _ => ofParts (ofInput below config) children
  | .map fields _ =>
      ofParts (ofPair below config) (if config.sortKeys then fields.sorted else fields.entries)
  | .raw sql values negated => some (ofRaw config sql values negated)

/-- The leaves of a condition whose nodes nest at most to a depth. -/
def ofCondition (config : Config) : Nat → Node → Option Row
  | 0, _ => none
  | depth + 1, node => ofNode (ofCondition config depth) config node

end Row

/-- The leaves of several fragments that say something. -/
def Fragment.liveLeaves (parts : List Fragment) : List Clause :=
  (parts.flatMap fun part => part.sealed.leaves).filter fun leaf => !leaf.isEmpty

/-- The leaves of an outcome that say something, and whether it is complete. -/
def Outcome.row (outcome : Outcome) : Row :=
  ⟨Fragment.liveLeaves [outcome.fragment], outcome.issue.isNone⟩

namespace Outcome

/-- Saying nothing leaves no leaf and keeps the row going. -/
theorem row_silent : silent.row = .silent := rfl

/-- A refused part leaves no leaf and ends the row under the strict option. -/
theorem row_refused (config : Config) (issue : ConditionIssue) :
    (refused config.toOptions issue).row = .refused config := by
  unfold refused Row.refused
  cases config.strict <;> rfl

/-- A clause at a leaf is one leaf, if it says something. Its fragment has no other. -/
theorem row_leaf (clause : Clause) (events : List Event) :
    (Outcome.mk (.leaf clause) none events).row = .ofClause clause := by
  simp only [row, Row.ofClause, Fragment.liveLeaves, Fragment.sealed, Fragment.leaves,
    List.flatMap_singleton]
  cases live : clause.isEmpty <;> simp [live]

/-- A group with nothing but a clause in it is one leaf, parentheses included. -/
theorem row_group (negated : Bool) (clause : Clause) :
    (Outcome.mk (.grouped negated (.leaf clause)) none []).row =
      .ofClause (clause.grouped negated) :=
  row_leaf (clause.grouped negated) []

end Outcome

namespace Reduction

/-- What is reduced one way has the leaves that are listed another way. -/
def Lists {α : Type} (reducePart : α → Option Outcome) (rowOf : α → Option Row) : Prop :=
  ∀ part outcome, reducePart part = some outcome → rowOf part = some outcome.row

/-- An input has the listed leaves when nodes have. One that stands for no node is refused, and
its row is that of a refused part. -/
theorem of_input_lists {reduceNode : Node → Option Outcome} {rowOf : Node → Option Row}
    (config : Config) (nodes : Lists reduceNode rowOf) :
    Lists (ofInput reduceNode config) (Row.ofInput rowOf config) := by
  intro input outcome finished
  unfold ofInput at finished
  unfold Row.ofInput
  have meant := input.stands_for_eq
  cases taken : Node.ofInput input [] false with
  | ok node =>
    have found : input.standsFor = some node := by rw [meant, taken]; rfl
    simp only [taken] at finished
    simp only [found]
    exact nodes node outcome finished
  | error issue =>
    have missing : input.standsFor = none := by rw [meant, taken]; rfl
    simp only [taken, Option.some.injEq] at finished
    simp only [missing]
    rw [← finished, Outcome.row_refused]

/-- A comparison has the listed leaf, built by the operator that is selected for its key. -/
theorem row_of_comparison (config : Config) (key : String) (value : Value) :
    (ofComparison config key value).row = Row.ofComparison config key value := by
  unfold ofComparison Row.ofComparison
  cases selected : (config.operators.select (config.splitKey key).2 value).1 with
  | some operator =>
    simp only [selected, Outcome.after]
    exact Outcome.row_leaf _ _
  | none =>
    simp only [selected]
    exact Outcome.row_refused config _

/-- A pair of a mapping has the listed leaves when nodes have. Its hook, if there is one, is
asked by the reduction and by the walk alike. -/
theorem of_pair_lists {reduceNode : Node → Option Outcome} {rowOf : Node → Option Row}
    (config : Config) (nodes : Lists reduceNode rowOf) :
    Lists (ofPair reduceNode config) (Row.ofPair rowOf config) := by
  intro pair outcome finished
  unfold ofPair at finished
  unfold Row.ofPair
  cases registered : config.hooks.get? pair.1 with
  | none =>
    simp only [registered, Option.some.injEq] at finished
    dsimp only
    rw [← finished, row_of_comparison]
  | some hook =>
    simp only [registered] at finished
    dsimp only
    cases returned : hook pair.1 pair.2 config.toOptions with
    | none =>
      simp only [returned, Option.some.injEq] at finished
      dsimp only
      rw [← finished, Outcome.row_silent]
    | some input =>
      simp only [returned] at finished
      exact of_input_lists config nodes input outcome finished

/-- Parts have the listed leaves one after another. Both walks stop at the same part: the
one that is reduced with an issue is the one whose row does not come to its end. -/
theorem of_parts_lists {α : Type} {reducePart : α → Option Outcome} {rowOf : α → Option Row}
    (lists : Lists reducePart rowOf) (parts : List α) (gathered : Gathered)
    (finished : Gathered.ofParts reducePart parts = some gathered) :
    Row.ofParts rowOf parts =
      some ⟨Fragment.liveLeaves gathered.parts, gathered.issue.isNone⟩ := by
  induction parts generalizing gathered with
  | nil =>
    cases finished
    rfl
  | cons part rest inductionHypothesis =>
    obtain ⟨first, reduced, ending⟩ := Gathered.of_parts_cons_iff.mp finished
    have listed := lists part first reduced
    simp only [Row.ofParts, listed, Outcome.row]
    rcases ending with ⟨issue, halted, rfl⟩ | ⟨complete, later, gatheredLater, rfl⟩
    · rw [halted]
      rfl
    · simp only [complete, Option.isNone_none, if_true, inductionHypothesis later gatheredLater,
        Option.map_some, Row.before]
      simp [Fragment.liveLeaves]

/-- Raw SQL has the listed leaf, in its parentheses and with its values. -/
theorem row_of_raw (config : Config) (sql : String) (values : List Value) (negated : Bool) :
    (ofRaw config sql values negated).row = Row.ofRaw config sql values negated := by
  unfold ofRaw Row.ofRaw
  split
  · exact Outcome.row_silent
  · split
    · exact Outcome.row_group negated _
    · exact Outcome.row_refused config _

/-- One layer of reduction has the leaves that one layer of the walk lists. The fragment
that is made of the parts adds none: conjunctions and disjunctions have those of their
parts. -/
theorem of_node_lists {reduceNode : Node → Option Outcome} {rowOf : Node → Option Row}
    (config : Config) (nodes : Lists reduceNode rowOf) :
    Lists (ofNode reduceNode config) (Row.ofNode rowOf config) := by
  have conjoined (bare negated : Bool) (parts : List Fragment) :
      Fragment.liveLeaves [conjunction bare negated parts] = Fragment.liveLeaves parts := by
    rw [Fragment.liveLeaves, List.flatMap_singleton, leaves_conjunction, Fragment.liveLeaves]
  have disjoined (negated : Bool) (parts : List Fragment) :
      Fragment.liveLeaves [disjunction negated parts] = Fragment.liveLeaves parts := by
    rw [Fragment.liveLeaves, List.flatMap_singleton, leaves_disjunction, Fragment.liveLeaves]
  intro node outcome finished
  cases node with
  | raw sql values negated =>
    cases finished
    rw [Row.ofNode, row_of_raw]
  | and children bare negated =>
    obtain ⟨gathered, reached, rfl⟩ := Option.map_eq_some_iff.mp finished
    rw [Row.ofNode, of_parts_lists (of_input_lists config nodes) children gathered reached,
      Outcome.row, Gathered.outcome, conjoined]
  | or children negated =>
    obtain ⟨gathered, reached, rfl⟩ := Option.map_eq_some_iff.mp finished
    rw [Row.ofNode, of_parts_lists (of_input_lists config nodes) children gathered reached,
      Outcome.row, Gathered.outcome, disjoined]
  | map fields negated =>
    obtain ⟨gathered, reached, rfl⟩ := Option.map_eq_some_iff.mp finished
    have listed := of_parts_lists (of_pair_lists config nodes) _ gathered reached
    rw [Outcome.row, Gathered.outcome, conjoined]
    exact listed

end Reduction

/-- The leaves of a reduction, complete or up to an issue, are those that the condition has,
each once and in order. By induction over the depth, layer by layer. -/
theorem reduce_lists (config : Config) (depth : Nat) (node : Node) (outcome : Outcome)
    (finished : reduce config depth node = some outcome) :
    Row.ofCondition config depth node = some outcome.row := by
  induction depth generalizing node outcome with
  | zero => simp [reduce] at finished
  | succ depth inductionHypothesis =>
    exact Reduction.of_node_lists config inductionHypothesis node outcome finished

end SqlCondition
