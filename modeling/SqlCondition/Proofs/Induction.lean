import SqlCondition.Reduction

/-!
# Induction over reductions

A node stands below another one when reducing the other asks for it: it is what an
item of a list is taken for, or what the hook of a mapping key returns. The parts of
what a node is reduced to are what nodes below it are reduced to and, in a mapping,
comparisons of columns with values by selected operators; a refused part says nothing.

This gives an induction over reductions, complete or up to an issue, with one case for
each kind of node. It says nothing of depths, issues or logs.

Issues and logs come from two places only: parts that are refused, and operators that
are searched for. What holds of these, and of one log after another, holds of the issue
and the log of every reduction.
-/

namespace SqlCondition

/-- One node stands directly below another when it is reduced in its place. -/
inductive Below (config : Config) : Node → Node → Prop
  | conjunct {children : List Input} {bare negated : Bool} {item : Input} {child : Node}
      (member : item ∈ children) (taken : Node.ofInput item [] false = .ok child) :
      Below config (.and children bare negated) child
  | alternative {children : List Input} {negated : Bool} {item : Input} {child : Node}
      (member : item ∈ children) (taken : Node.ofInput item [] false = .ok child) :
      Below config (.or children negated) child
  | hooked {fields : Table Value} {negated : Bool} {key : String} {operand : Value} {hook : Hook}
      {item : Input} {child : Node} (member : (key, operand) ∈ fields.entries)
      (registered : config.hooks.get? key = some hook)
      (returned : hook key operand config.toOptions = some item)
      (taken : Node.ofInput item [] false = .ok child) : Below config (.map fields negated) child

namespace Reduction

/-- A part of what a node is reduced to: nothing, what a node below it is reduced to, or
the comparison for a key of a mapping. -/
inductive Part (config : Config) (motive : Node → Fragment → Prop) : Node → Fragment → Prop
  | silent (node : Node) : Part config motive node .empty
  | below {node child : Node} {fragment : Fragment} (placed : Below config node child)
      (holds : motive child fragment) : Part config motive node fragment
  | comparison {fields : Table Value} {negated : Bool} {key : String} {value : Value}
      {operator : Operator} (member : (key, value) ∈ fields.entries)
      (unhooked : config.hooks.get? key = none)
      (selected : (config.operators.select (config.splitKey key).2 value).1 = some operator) :
      Part config motive (.map fields negated)
        (.leaf (operator.build (config.column (config.splitKey key).1) value config.toOptions))

/-- The pairs that are reduced are the entries of the mapping, sorted or not, since sorting only
moves them. -/
theorem mem_pairs {config : Config} {fields : Table Value} {pair : String × Value} :
    pair ∈ pairs config fields ↔ pair ∈ fields.entries := by
  unfold pairs
  split
  · exact List.mem_mergeSort
  · exact Iff.rfl

/-- A refused part says nothing, whether it ends the reduction or is left out. -/
theorem refused_fragment (options : Options) (issue : ConditionIssue) :
    (Outcome.refused options issue).fragment = .empty := by
  unfold Outcome.refused
  split <;> rfl

/-- Every fragment that was gathered is the outcome of one of the parts. The last one may be
incomplete, but it is a part's outcome like the others. -/
theorem of_parts_parts {α : Type} {reducePart : α → Option Outcome} (parts : List α)
    (gathered : Gathered) (finished : Gathered.ofParts reducePart parts = some gathered) :
    ∀ fragment ∈ gathered.parts,
      ∃ part ∈ parts, ∃ outcome, reducePart part = some outcome ∧ outcome.fragment = fragment := by
  induction parts generalizing gathered with
  | nil =>
    have same : (⟨[], none, []⟩ : Gathered) = gathered := Option.some.inj finished
    subst same
    simp
  | cons part rest inductionHypothesis =>
    obtain ⟨first, reduced, ending⟩ := Gathered.of_parts_cons_iff.mp finished
    have own : ∃ other ∈ part :: rest, ∃ outcome, reducePart other = some outcome ∧
        outcome.fragment = first.fragment := ⟨part, List.mem_cons_self, first, reduced, rfl⟩
    intro fragment member
    rcases ending with ⟨issue, _, rfl⟩ | ⟨_, later, gatheredLater, rfl⟩
    · exact List.mem_singleton.mp member ▸ own
    · rcases List.mem_cons.mp member with rfl | inside
      · exact own
      · obtain ⟨other, found, outcome, same⟩ :=
          inductionHypothesis later gatheredLater fragment inside
        exact ⟨other, List.mem_cons_of_mem part found, outcome, same⟩

section

variable {config : Config} {motive : Node → Fragment → Prop} {reduceNode : Node → Option Outcome}
  (sound : ∀ node outcome, reduceNode node = some outcome → motive node outcome.fragment)
include sound

/-- An input is reduced to a part of the node below which it is taken: what its own node is
reduced to, or nothing when it is refused. -/
theorem of_input_part (node : Node) (input : Input)
    (placed : ∀ child, Node.ofInput input [] false = .ok child → Below config node child)
    (outcome : Outcome) (finished : ofInput reduceNode config input = some outcome) :
    Part config motive node outcome.fragment := by
  unfold ofInput at finished
  cases taken : Node.ofInput input [] false with
  | ok child =>
    simp only [taken] at finished
    exact .below (placed child taken) (sound child outcome finished)
  | error issue =>
    simp only [taken, Option.some.injEq] at finished
    rw [← finished, refused_fragment]
    exact .silent node

/-- A pair of a mapping is reduced to a part of the mapping: a comparison, what a hook's input
comes to, or nothing. -/
theorem of_pair_part (fields : Table Value) (negated : Bool) (pair : String × Value)
    (member : pair ∈ pairs config fields) (outcome : Outcome)
    (finished : ofPair reduceNode config pair = some outcome) :
    Part config motive (.map fields negated) outcome.fragment := by
  have entry : (pair.1, pair.2) ∈ fields.entries := mem_pairs.mp member
  unfold ofPair at finished
  cases registered : config.hooks.get? pair.1 with
  | none =>
    simp only [registered, Option.some.injEq] at finished
    subst finished
    simp only [ofComparison, Outcome.after]
    split
    · rename_i operator selected
      exact .comparison entry registered selected
    · rw [refused_fragment]
      exact .silent _
  | some hook =>
    simp only [registered] at finished
    cases returned : hook pair.1 pair.2 config.toOptions with
    | none =>
      simp only [returned, Option.some.injEq] at finished
      exact finished ▸ .silent _
    | some input =>
      simp only [returned] at finished
      exact of_input_part sound _ input
        (fun child taken => .hooked entry registered returned taken) outcome finished

/-- What is gathered from inputs consists of parts of the node below which they are taken, up to
the one with an issue if there is one. -/
theorem of_inputs_parts (node : Node) (children : List Input)
    (placed : ∀ item ∈ children, ∀ child, Node.ofInput item [] false = .ok child →
      Below config node child)
    (gathered : Gathered)
    (finished : Gathered.ofParts (ofInput reduceNode config) children = some gathered) :
    ∀ fragment ∈ gathered.parts, Part config motive node fragment := by
  intro fragment inside
  obtain ⟨item, member, outcome, reduced, rfl⟩ :=
    of_parts_parts children gathered finished fragment inside
  exact of_input_part sound node item (placed item member) outcome reduced

end

end Reduction

/-- Induction over reductions. What holds of raw SQL that is accepted and of nothing in
its place, and of a conjunction, a disjunction and a mapping when it holds of their
parts, holds of every node and the fragment that it is reduced to, at any depth. -/
theorem reduce_induction {config : Config} {motive : Node → Fragment → Prop}
    (raw : ∀ sql values negated, Placeholder.count sql = values.length →
      motive (.raw sql values negated) (.grouped negated (.leaf ⟨sql, values⟩)))
    (refused : ∀ sql values negated, motive (.raw sql values negated) .empty)
    (conjunction : ∀ children bare negated parts,
      (∀ part ∈ parts, Reduction.Part config motive (.and children bare negated) part) →
        motive (.and children bare negated) (Reduction.conjunction bare negated parts))
    (disjunction : ∀ children negated parts,
      (∀ part ∈ parts, Reduction.Part config motive (.or children negated) part) →
        motive (.or children negated) (Reduction.disjunction negated parts))
    (mapping : ∀ fields negated parts,
      (∀ part ∈ parts, Reduction.Part config motive (.map fields negated) part) →
        motive (.map fields negated) (Reduction.conjunction false negated parts))
    (depth : Nat) (node : Node) (outcome : Outcome)
    (finished : reduce config depth node = some outcome) : motive node outcome.fragment := by
  induction depth generalizing node outcome with
  | zero => simp [reduce] at finished
  | succ depth sound =>
    cases node with
    | raw sql values negated =>
      have same : Reduction.ofRaw config sql values negated = outcome := Option.some.inj finished
      subst same
      unfold Reduction.ofRaw
      split
      · exact refused sql values negated
      · split
        · rename_i fits
          exact raw sql values negated fits
        · rw [Reduction.refused_fragment]
          exact refused sql values negated
    | and children bare negated =>
      obtain ⟨gathered, reached, rfl⟩ := Option.map_eq_some_iff.mp finished
      apply conjunction
      apply Reduction.of_inputs_parts sound _ children _ gathered reached
      intro item member child taken
      exact .conjunct member taken
    | or children negated =>
      obtain ⟨gathered, reached, rfl⟩ := Option.map_eq_some_iff.mp finished
      apply disjunction
      apply Reduction.of_inputs_parts sound _ children _ gathered reached
      intro item member child taken
      exact .alternative member taken
    | map fields negated =>
      obtain ⟨gathered, reached, rfl⟩ := Option.map_eq_some_iff.mp finished
      apply mapping
      intro fragment inside
      obtain ⟨pair, member, first, reduced, rfl⟩ :=
        Reduction.of_parts_parts _ gathered reached fragment inside
      exact Reduction.of_pair_part sound fields negated pair member first reduced

/-! ## Issues and logs -/

/-- A rule for the issue and the log of a reduction, which every layer keeps. -/
structure Reported (config : Config) (motive : Option ConditionIssue → List Event → Prop) :
    Prop where
  nothing : motive none []
  followed : ∀ earlier issue later, motive none earlier → motive issue later →
    motive issue (earlier ++ later)
  refused : ∀ issue, motive (Outcome.refused config.toOptions issue).issue
    (Outcome.refused config.toOptions issue).events
  searched : ∀ name value, motive none (config.operators.select name value).2

namespace Reported

variable {config : Config} {motive : Option ConditionIssue → List Event → Prop}
  (rule : Reported config motive)
include rule

/-- The rule holds of parts together when it holds of each. Gathering puts their logs one after
another and takes the first issue, and the rule allows both. -/
theorem of_parts {α : Type} {reducePart : α → Option Outcome}
    (each : ∀ part outcome, reducePart part = some outcome → motive outcome.issue outcome.events)
    (parts : List α) (gathered : Gathered)
    (finished : Gathered.ofParts reducePart parts = some gathered) :
    motive gathered.issue gathered.events := by
  induction parts generalizing gathered with
  | nil =>
    have same : (⟨[], none, []⟩ : Gathered) = gathered := Option.some.inj finished
    exact same ▸ rule.nothing
  | cons part rest inductionHypothesis =>
    obtain ⟨first, reduced, ending⟩ := Gathered.of_parts_cons_iff.mp finished
    have own : motive first.issue first.events := each part first reduced
    rcases ending with ⟨issue, ended, rfl⟩ | ⟨ended, later, gatheredLater, rfl⟩
    · exact ended ▸ own
    · exact rule.followed _ _ _ (ended ▸ own) (inductionHypothesis later gatheredLater)

/-- The rule holds of the comparison for a key: an operator is looked up, which may be noted,
and a missing one is a refusal. -/
theorem of_comparison (key : String) (value : Value) :
    motive (Reduction.ofComparison config key value).issue
      (Reduction.ofComparison config key value).events := by
  simp only [Reduction.ofComparison, Outcome.after]
  refine rule.followed _ _ _ (rule.searched _ _) ?_
  cases (config.operators.select (config.splitKey key).2 value).1 with
  | some operator => exact rule.nothing
  | none => exact rule.refused _

/-- The rule holds of an input when it holds of nodes, for an input is reduced as its node or
refused. -/
theorem of_input {reduceNode : Node → Option Outcome}
    (sound : ∀ node outcome, reduceNode node = some outcome → motive outcome.issue outcome.events)
    (input : Input) (outcome : Outcome)
    (finished : Reduction.ofInput reduceNode config input = some outcome) :
    motive outcome.issue outcome.events := by
  unfold Reduction.ofInput at finished
  split at finished
  · exact sound _ outcome finished
  · exact Option.some.inj finished ▸ rule.refused _

/-- The rule holds of a pair of a mapping when it holds of nodes. Hooks themselves log nothing. -/
theorem of_pair {reduceNode : Node → Option Outcome}
    (sound : ∀ node outcome, reduceNode node = some outcome → motive outcome.issue outcome.events)
    (pair : String × Value) (outcome : Outcome)
    (finished : Reduction.ofPair reduceNode config pair = some outcome) :
    motive outcome.issue outcome.events := by
  unfold Reduction.ofPair at finished
  split at finished
  · exact Option.some.inj finished ▸ rule.of_comparison _ _
  · split at finished
    · exact Option.some.inj finished ▸ rule.nothing
    · exact rule.of_input sound _ outcome finished

/-- The rule holds of raw SQL, which is silent, a leaf or a refusal. -/
theorem of_raw (sql : String) (values : List Value) (negated : Bool) :
    motive (Reduction.ofRaw config sql values negated).issue
      (Reduction.ofRaw config sql values negated).events := by
  unfold Reduction.ofRaw
  split
  · exact rule.nothing
  · split
    · exact rule.nothing
    · exact rule.refused _

/-- The rule holds of every reduction, by induction on the depth with one case for each kind of
node. -/
theorem of_reduce (depth : Nat) (node : Node) (outcome : Outcome)
    (finished : reduce config depth node = some outcome) :
    motive outcome.issue outcome.events := by
  induction depth generalizing node outcome with
  | zero => simp [reduce] at finished
  | succ depth sound =>
    cases node with
    | raw sql values negated => exact Option.some.inj finished ▸ rule.of_raw sql values negated
    | and children bare negated =>
      obtain ⟨gathered, reached, rfl⟩ := Option.map_eq_some_iff.mp finished
      exact rule.of_parts (rule.of_input sound) children gathered reached
    | or children negated =>
      obtain ⟨gathered, reached, rfl⟩ := Option.map_eq_some_iff.mp finished
      exact rule.of_parts (rule.of_input sound) children gathered reached
    | map fields negated =>
      obtain ⟨gathered, reached, rfl⟩ := Option.map_eq_some_iff.mp finished
      exact rule.of_parts (rule.of_pair sound) _ gathered reached

end Reported

/-- Without the strict option nothing is an issue: a refused part is skipped, and the only other
sources of issues are parts with issues. -/
theorem reported_lenient {config : Config} (lenient : config.strict = false) :
    Reported config fun issue _ => issue = none where
  nothing := rfl
  followed _ _ _ _ later := later
  refused issue := by simp [Outcome.refused, lenient]
  searched _ _ := rfl

end SqlCondition
