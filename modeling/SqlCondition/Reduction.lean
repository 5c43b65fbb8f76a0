import SqlCondition.Condition.Normal
import SqlCondition.Config
import SqlCondition.Clause.Basic

/-!
# Reduction of conditions to clauses

A node is reduced part by part, from the left. A part that is refused is left out,
or, under the strict option, ends the reduction; what was reduced before it is
kept beside the issue.

Hooks return inputs that contain keys with hooks again, so a reduction need not
end. One layer of it, `Reduction.ofNode`, is a function of the reduction of the
nodes below. `reduce` applies that layer up to a depth and gives no outcome when
the depth is used up. Its main law is that more depth never changes an outcome.
-/

namespace SqlCondition

/-- What a reduction has come to: the fragment, the issue that ended it, and what
the log shows. -/
structure Outcome where
  fragment : Fragment
  issue : Option ConditionIssue
  events : List Event

namespace Outcome

/-- Nothing to say. -/
def silent : Outcome := ⟨.empty, none, []⟩

/-- The outcome of a refused part: it ends a strict reduction and is left out of
any other. -/
def refused (options : Options) (issue : ConditionIssue) : Outcome :=
  if options.strict then ⟨.empty, some issue, []⟩ else ⟨.empty, none, [.skipped issue]⟩

/-- The outcome with earlier entries of the log in front. -/
def after (earlier : List Event) (outcome : Outcome) : Outcome :=
  { outcome with events := earlier ++ outcome.events }

end Outcome

/-- The outcomes of parts up to the first issue. -/
structure Gathered where
  parts : List Fragment
  issue : Option ConditionIssue
  events : List Event

namespace Gathered

/-- The parts as one fragment. -/
def outcome (shape : List Fragment → Fragment) (gathered : Gathered) : Outcome :=
  ⟨shape gathered.parts, gathered.issue, gathered.events⟩

/-- Reduce parts from the left until one has an issue. -/
def ofParts {α : Type} (reducePart : α → Option Outcome) : List α → Option Gathered
  | [] => some ⟨[], none, []⟩
  | part :: rest =>
      match reducePart part with
      | none => none
      | some first =>
          match first.issue with
          | some issue => some ⟨[first.fragment], some issue, first.events⟩
          | none =>
              (ofParts reducePart rest).map fun later =>
                ⟨first.fragment :: later.parts, later.issue, first.events ++ later.events⟩

/-- How parts are gathered from the first one on: it is the last one when it has an
issue, and otherwise the rest is gathered behind it. Proofs about gathered parts go by
these two cases. -/
theorem of_parts_cons_iff {α : Type} {reducePart : α → Option Outcome} {part : α}
    {rest : List α} {gathered : Gathered} :
    ofParts reducePart (part :: rest) = some gathered ↔
      ∃ first, reducePart part = some first ∧
        ((∃ issue, first.issue = some issue ∧
            gathered = ⟨[first.fragment], some issue, first.events⟩) ∨
          (first.issue = none ∧ ∃ later, ofParts reducePart rest = some later ∧
            gathered =
              ⟨first.fragment :: later.parts, later.issue, first.events ++ later.events⟩)) := by
  rw [ofParts]
  cases reducePart part with
  | none => simp
  | some first =>
    cases ended : first.issue <;> simp [ended, Option.map_eq_some_iff, @eq_comm _ gathered]

end Gathered

namespace Reduction

/-- Reduce an input, given the reduction of nodes. -/
def ofInput (reduceNode : Node → Option Outcome) (config : Config) (input : Input) :
    Option Outcome :=
  match Node.ofInput input [] false with
  | .ok node => reduceNode node
  | .error issue => some (.refused config.toOptions issue)

/-- Reduce a key without a hook: the operator it names, or else the one inferred
from the value, compares the column with the value. -/
def ofComparison (config : Config) (key : String) (value : Value) : Outcome :=
  let parts := config.splitKey key
  let selected := config.operators.select parts.2 value
  Outcome.after selected.2 <|
    match selected.1 with
    | some operator =>
        ⟨.leaf (operator.build (config.column parts.1) value config.toOptions), none, []⟩
    | none => .refused config.toOptions (.invalid (.text key) (some [value]))

/-- Reduce a pair of a mapping. A hook of the key takes the place of the pair. -/
def ofPair (reduceNode : Node → Option Outcome) (config : Config) (pair : String × Value) :
    Option Outcome :=
  match config.hooks.get? pair.1 with
  | none => some (ofComparison config pair.1 pair.2)
  | some hook =>
      match hook pair.1 pair.2 config.toOptions with
      | none => some .silent
      | some input => ofInput reduceNode config input

/-- The pairs of a mapping in the order in which they are reduced. -/
def pairs (config : Config) (fields : Table Value) : List (String × Value) :=
  if config.sortKeys then fields.sorted else fields.entries

/-- Reduce raw SQL. It is refused unless it has as many placeholders as values. -/
def ofRaw (config : Config) (sql : String) (values : List Value) (negated : Bool) : Outcome :=
  if sql.isEmpty then .silent
  else if Placeholder.count sql = values.length then
    ⟨.grouped negated (.leaf ⟨sql, values⟩), none, []⟩
  else .refused config.toOptions (.invalid (.text sql) (some values))

/-- The fragment of a conjunction; only a bare one that is not negated stands
without parentheses. -/
def conjunction (bare negated : Bool) (parts : List Fragment) : Fragment :=
  if bare && !negated then .joined .and parts else .grouped negated (.joined .and parts)

/-- The fragment of a disjunction. -/
def disjunction (negated : Bool) (parts : List Fragment) : Fragment :=
  .grouped negated (.joined .or parts)

/-- Reduce a node, given the reduction of the nodes below. -/
def ofNode (reduceNode : Node → Option Outcome) (config : Config) : Node → Option Outcome
  | .and children bare negated =>
      (Gathered.ofParts (ofInput reduceNode config) children).map
        (Gathered.outcome (conjunction bare negated))
  | .or children negated =>
      (Gathered.ofParts (ofInput reduceNode config) children).map
        (Gathered.outcome (disjunction negated))
  | .map fields negated =>
      (Gathered.ofParts (ofPair reduceNode config) (pairs config fields)).map
        (Gathered.outcome (conjunction false negated))
  | .raw sql values negated => some (ofRaw config sql values negated)

end Reduction

/-- Reduce a node whose nodes nest at most to a depth. -/
def reduce (config : Config) : Nat → Node → Option Outcome
  | 0, _ => none
  | depth + 1, node => Reduction.ofNode (reduce config depth) config node

/-- A clause, complete or up to an issue. -/
structure Built where
  clause : Clause
  issue : Option ConditionIssue

namespace Built

/-- The clause when it is complete, and the issue otherwise. -/
def result (built : Built) : Except ConditionIssue Clause :=
  match built.issue with
  | some issue => .error issue
  | none => .ok built.clause

/-- The entry of the log about the clause. -/
def event (built : Built) : Event :=
  .built built.clause.sql built.clause.values.length built.issue.isSome

/-- What was built from an outcome, with the whole log. -/
def ofOutcome (outcome : Outcome) : Built × List Event :=
  let built : Built := ⟨outcome.fragment.clause, outcome.issue⟩
  (built, outcome.events ++ [built.event])

end Built

/-- Build the clause of an input with the values given beside it, together with
what the log shows. -/
def build (depth : Nat) (config : Config) (input : Input) (values : List Value) (negated : Bool) :
    Option (Built × List Event) :=
  match Node.ofInput input values negated with
  | .ok node => (reduce config depth node).map Built.ofOutcome
  | .error issue => some (Built.ofOutcome (.refused config.toOptions issue))

/-! ## More depth never changes an outcome -/

namespace Reduction

/-- One way of reducing nodes agrees with another where it finishes. -/
def Extends (more less : Node → Option Outcome) : Prop :=
  ∀ node outcome, less node = some outcome → more node = some outcome

/-- What reducing an input finishes with one way of reducing nodes, it finishes with
another that agrees with it. -/
theorem of_input_extends {more less : Node → Option Outcome} (agreement : Extends more less)
    (config : Config) (input : Input) (outcome : Outcome)
    (finished : ofInput less config input = some outcome) :
    ofInput more config input = some outcome := by
  unfold ofInput at finished ⊢
  split <;> rename_i reached <;> simp only [reached] at finished
  · exact agreement _ _ finished
  · exact finished

/-- So does a pair of a mapping, whether it is a comparison or what its hook returns. -/
theorem of_pair_extends {more less : Node → Option Outcome} (agreement : Extends more less)
    (config : Config) (pair : String × Value) (outcome : Outcome)
    (finished : ofPair less config pair = some outcome) :
    ofPair more config pair = some outcome := by
  unfold ofPair at finished ⊢
  cases hooked : config.hooks.get? pair.1 with
  | none => simpa only [hooked] using finished
  | some hook =>
    simp only [hooked] at finished ⊢
    cases returned : hook pair.1 pair.2 config.toOptions with
    | none => simpa only [returned] using finished
    | some input =>
      simp only [returned] at finished ⊢
      exact of_input_extends agreement config input outcome finished

/-- Parts that finish one way finish alike another way that agrees with it, up to the same first
issue. -/
theorem of_parts_extends {α : Type} {more less : α → Option Outcome}
    (agrees : ∀ part outcome, less part = some outcome → more part = some outcome)
    (parts : List α) (gathered : Gathered)
    (finished : Gathered.ofParts less parts = some gathered) :
    Gathered.ofParts more parts = some gathered := by
  induction parts generalizing gathered with
  | nil => exact finished
  | cons part rest inductionHypothesis =>
    obtain ⟨first, reduced, ending⟩ := Gathered.of_parts_cons_iff.mp finished
    refine Gathered.of_parts_cons_iff.mpr ⟨first, agrees part first reduced, ?_⟩
    rcases ending with halted | ⟨complete, later, gatheredLater, same⟩
    · exact .inl halted
    · exact .inr ⟨complete, later, inductionHypothesis later gatheredLater, same⟩

/-- One layer of reduction keeps the agreement of what it is built on, for every kind of node. -/
theorem of_node_extends {more less : Node → Option Outcome} (agreement : Extends more less)
    (config : Config) : Extends (ofNode more config) (ofNode less config) := by
  intro node outcome finished
  cases node with
  | raw sql values negated => exact finished
  | and children bare negated =>
    obtain ⟨gathered, reached, same⟩ := Option.map_eq_some_iff.mp finished
    exact Option.map_eq_some_iff.mpr
      ⟨gathered, of_parts_extends (of_input_extends agreement config) children gathered reached, same⟩
  | or children negated =>
    obtain ⟨gathered, reached, same⟩ := Option.map_eq_some_iff.mp finished
    exact Option.map_eq_some_iff.mpr
      ⟨gathered, of_parts_extends (of_input_extends agreement config) children gathered reached, same⟩
  | map fields negated =>
    obtain ⟨gathered, reached, same⟩ := Option.map_eq_some_iff.mp finished
    exact Option.map_eq_some_iff.mpr
      ⟨gathered, of_parts_extends (of_pair_extends agreement config) _ gathered reached, same⟩

end Reduction

/-- A finished reduction stays the same at any greater depth. So the depth decides only whether
there is an outcome, and not which. -/
theorem reduce_deeper (config : Config) (depth more : Nat) (node : Node) (outcome : Outcome)
    (finished : reduce config depth node = some outcome) :
    reduce config (depth + more) node = some outcome := by
  induction depth generalizing node outcome with
  | zero => simp [reduce] at finished
  | succ depth inductionHypothesis =>
    rw [Nat.succ_add]
    exact Reduction.of_node_extends inductionHypothesis config node outcome finished

end SqlCondition
