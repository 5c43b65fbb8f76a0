import Mathlib.Logic.Relation
import SqlCondition.Proofs.Assembly
import SqlCondition.Proofs.Induction

/-!
# Where the leaves of a reduction come from

Whatever a reduction writes, complete or up to an issue, is put together from the raw
SQL that is reached from its node by going below, and from comparisons of columns with
values by selected operators. Nothing else is ever at a leaf.
-/

namespace SqlCondition

/-- One node is reached from another by going below any number of times. -/
abbrev Reaches (config : Config) : Node → Node → Prop := Relation.ReflTransGen (Below config)

/-- A text is raw SQL of a node or of what is reached from it. -/
def RawText (config : Config) (node : Node) (sql : String) : Prop :=
  ∃ values negated, Reaches config node (.raw sql values negated)

namespace RawText

/-- The raw SQL of what stands below a node is raw SQL of the node, and a node that
is no raw SQL has no other. -/
theorem iff_below {config : Config} {node : Node} {sql : String}
    (composed : ∀ values negated, node ≠ .raw sql values negated) :
    RawText config node sql ↔ ∃ child, Below config node child ∧ RawText config child sql := by
  constructor
  · rintro ⟨values, negated, reached⟩
    rcases reached.cases_head with same | ⟨child, below, further⟩
    · exact absurd same (composed values negated)
    · exact ⟨child, below, values, negated, further⟩
  · rintro ⟨child, below, values, negated, reached⟩
    exact ⟨values, negated, .head below reached⟩

/-- Raw SQL is its own only text, because nothing stands below it. -/
theorem raw_iff (config : Config) (own sql : String) (values : List Value) (negated : Bool) :
    RawText config (.raw own values negated) sql ↔ sql = own := by
  constructor
  · rintro ⟨others, flag, reached⟩
    rcases reached.cases_head with same | ⟨child, below, _⟩
    · exact (Node.raw.inj same).1.symm
    · cases below
  · rintro rfl
    exact ⟨values, negated, .refl⟩

/-- A disjunction has the texts of its items, those that are taken for nodes. -/
theorem or_iff (config : Config) (children : List Input) (negated : Bool) (sql : String) :
    RawText config (.or children negated) sql ↔
      ∃ item ∈ children, ∃ child, Node.ofInput item [] false = .ok child ∧
        RawText config child sql := by
  rw [iff_below (by simp)]
  constructor
  · rintro ⟨child, below, text⟩
    cases below with
    | alternative member taken => exact ⟨_, member, child, taken, text⟩
  · rintro ⟨item, member, child, taken, text⟩
    exact ⟨child, .alternative member taken, text⟩

/-- So does a conjunction, bare or not. -/
theorem and_iff (config : Config) (children : List Input) (bare negated : Bool) (sql : String) :
    RawText config (.and children bare negated) sql ↔
      ∃ item ∈ children, ∃ child, Node.ofInput item [] false = .ok child ∧
        RawText config child sql := by
  rw [iff_below (by simp)]
  constructor
  · rintro ⟨child, below, text⟩
    cases below with
    | conjunct member taken => exact ⟨_, member, child, taken, text⟩
  · rintro ⟨item, member, child, taken, text⟩
    exact ⟨child, .conjunct member taken, text⟩

/-- A mapping has the texts of what its hooks return. Its other entries are comparisons, which
hold no raw SQL. -/
theorem map_iff (config : Config) (fields : Table Value) (negated : Bool) (sql : String) :
    RawText config (.map fields negated) sql ↔
      ∃ entry ∈ fields.entries, ∃ hook, config.hooks.get? entry.1 = some hook ∧
        ∃ item, hook entry.1 entry.2 config.toOptions = some item ∧
          ∃ child, Node.ofInput item [] false = .ok child ∧ RawText config child sql := by
  rw [iff_below (by simp)]
  constructor
  · rintro ⟨child, below, text⟩
    cases below with
    | hooked member registered returned taken =>
      exact ⟨_, member, _, registered, _, returned, child, taken, text⟩
  · rintro ⟨entry, member, hook, registered, item, returned, child, taken, text⟩
    exact ⟨child, .hooked member registered returned taken, text⟩

end RawText

/-- What may stand at a leaf: nothing, raw SQL in its parentheses with as many
placeholders as values, or a comparison by an operator that was selected for it. -/
inductive Origin (config : Config) (node : Node) : Clause → Prop
  | silent : Origin config node .empty
  | raw {sql : String} {values : List Value} {negated : Bool}
      (reached : Reaches config node (.raw sql values negated))
      (fits : Placeholder.count sql = values.length) :
      Origin config node (Clause.grouped negated ⟨sql, values⟩)
  | comparison {operator : Operator} {name : Option String} (column : String) (value : Value)
      (selected : (config.operators.select name value).1 = some operator) :
      Origin config node (operator.build (config.column column) value config.toOptions)

/-- What comes from below a node comes from the node, by one more step down. -/
theorem Origin.above {config : Config} {node child : Node} {leaf : Clause}
    (below : Below config node child) (origin : Origin config child leaf) :
    Origin config node leaf := by
  cases origin with
  | silent => exact .silent
  | raw reached fits => exact .raw (.head below reached) fits
  | comparison column value selected => exact .comparison column value selected

namespace Reduction

/-- Every leaf of a fragment comes from a node. -/
def Sourced (config : Config) (node : Node) (fragment : Fragment) : Prop :=
  ∀ leaf ∈ fragment.sealed.leaves, Origin config node leaf

/-- The leaves of a conjunction are those of its parts in order. Parentheses add none. -/
theorem leaves_conjunction (bare negated : Bool) (parts : List Fragment) :
    (conjunction bare negated parts).sealed.leaves =
      parts.flatMap fun part => part.sealed.leaves := by
  have joined : Fragment.leavesAll (Fragment.sealedAll parts) =
      parts.flatMap fun part => part.sealed.leaves := by
    rw [Fragment.leaves_all_eq_flat_map, Fragment.sealed_all_eq_map, List.flatMap_map]
  unfold conjunction
  split <;> exact joined

/-- Those of a disjunction are, part by part, the leaves of what it joins. -/
theorem leaves_disjunction (negated : Bool) (parts : List Fragment) :
    (disjunction negated parts).sealed.leaves = parts.flatMap fun part => part.sealed.leaves := by
  exact (Fragment.leaves_all_eq_flat_map _).trans
    (by rw [Fragment.sealed_all_eq_map, List.flatMap_map])

/-- The leaves of a part come from the node of which it is one: they are nothing, or a
comparison of the node, or they come from below. -/
theorem Part.sourced {config : Config} {node : Node} {fragment : Fragment}
    (part : Part config (Sourced config) node fragment) : Sourced config node fragment := by
  intro leaf own
  cases part with
  | silent =>
    cases List.mem_singleton.mp own
    exact .silent
  | below placed holds => exact (holds leaf own).above placed
  | comparison member unhooked selected =>
    cases List.mem_singleton.mp own
    exact .comparison _ _ selected

/-- So do the leaves of several parts, each of which is a part of the same node. -/
theorem parts_sourced {config : Config} {node : Node} (parts : List Fragment)
    (each : ∀ part ∈ parts, Part config (Sourced config) node part) :
    ∀ leaf ∈ parts.flatMap fun part => part.sealed.leaves, Origin config node leaf := by
  intro leaf own
  obtain ⟨part, inside, within⟩ := List.mem_flatMap.mp own
  exact (each part inside).sourced leaf within

end Reduction

/-- Every leaf of a reduction, complete or up to an issue, comes from its node. By induction
over the reduction, with the leaves of a list or mapping taken from its parts. -/
theorem reduce_sourced (config : Config) (depth : Nat) (node : Node) (outcome : Outcome)
    (finished : reduce config depth node = some outcome) :
    Reduction.Sourced config node outcome.fragment := by
  refine reduce_induction ?_ ?_ ?_ ?_ ?_ depth node outcome finished
  · intro sql values negated fits leaf own
    cases List.mem_singleton.mp own
    exact .raw .refl fits
  · intro sql values negated leaf own
    cases List.mem_singleton.mp own
    exact .silent
  · intro children bare negated parts each leaf own
    rw [Reduction.leaves_conjunction] at own
    exact Reduction.parts_sourced parts each leaf own
  · intro children negated parts each leaf own
    rw [Reduction.leaves_disjunction] at own
    exact Reduction.parts_sourced parts each leaf own
  · intro fields negated parts each leaf own
    rw [Reduction.leaves_conjunction] at own
    exact Reduction.parts_sourced parts each leaf own

section

variable {motive : Clause → Prop} (nothing : motive .empty)
  (both : ∀ (connective : Connective) (front back : Clause), motive front → motive back →
    motive (front ++ Clause.ofText connective.separator ++ back))
  (enclosed : ∀ (negated : Bool) (clause : Clause), motive clause →
    motive (Clause.ofText (Clause.opening negated) ++ clause ++ Clause.ofText ")"))
include nothing both enclosed

/-- What holds of every clause that may stand at a leaf, and of what is assembled from
clauses of which it holds, holds of the clause of a reduction, complete or up to an
issue. -/
theorem reduce_clause_induction (config : Config) (depth : Nat) (node : Node)
    (origins : ∀ leaf, Origin config node leaf → motive leaf) (outcome : Outcome)
    (finished : reduce config depth node = some outcome) : motive outcome.fragment.clause := by
  rw [← Fragment.clause_sealed]
  apply Fragment.clause_induction nothing both enclosed
  intro leaf own
  exact origins leaf (reduce_sourced config depth node outcome finished leaf own)

/-- So it does of the clause that is built. An input that is refused comes to the clause that
says nothing, and any other one to a reduction. -/
theorem build_clause_induction (depth : Nat) (config : Config) (input : Input)
    (values : List Value) (negated : Bool)
    (origins : ∀ node, Node.ofInput input values negated = .ok node →
      ∀ leaf, Origin config node leaf → motive leaf)
    (result : Built × List Event) (finished : build depth config input values negated = some result) :
    motive result.1.clause := by
  unfold build at finished
  cases taken : Node.ofInput input values negated with
  | error issue =>
    simp only [taken, Option.some.injEq] at finished
    have clause : (Outcome.refused config.toOptions issue).fragment.clause = result.1.clause :=
      congrArg (fun built => built.1.clause) finished
    rw [← clause, Reduction.refused_fragment]
    exact nothing
  | ok node =>
    simp only [taken] at finished
    obtain ⟨outcome, reduced, rfl⟩ := Option.map_eq_some_iff.mp finished
    exact reduce_clause_induction nothing both enclosed config depth node (origins node taken)
      outcome reduced

end

end SqlCondition
