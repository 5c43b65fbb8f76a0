import SqlCondition.Proofs.Assembly
import SqlCondition.Reduction

/-!
# What a condition says

A condition says something about atoms, which are comparisons and raw SQL. A
conjunction and a mapping say that all of their parts hold, a disjunction and a list
that some part does, and a negated condition says the opposite. Parts that have
nothing to say are left out, and a condition whose parts are all left out is left out
itself.

`Formula.ofCondition` is this reading of a condition. It knows nothing of text, of
parentheses or of bare conjunctions. It looks as deep as a reduction does, because
hooks return conditions again. The main law is that a lenient reduction keeps to it:
the structure that is still visible in its fragment is that formula.

What an input stands for is told here by its parts and not by how a reduction takes it:
a text with the values behind it is raw SQL, any other list is the disjunction of its
items, and a mapping is the conjunction of its pairs. That a reduction takes inputs the
same way is proved first.
-/

namespace SqlCondition

namespace Input

/-- The raw SQL that an input is, with the values for its placeholders: a text alone, or
a list of a text and plain values behind it, of which there is at least one. -/
def rawParts : Input → Option (String × List Value)
  | .list (head :: next :: rest) =>
      match head.asText, (next :: rest).mapM asValue with
      | some sql, some operands => some (sql, operands)
      | _, _ => none
  | .list _ => none
  | other => other.asText.map fun sql => (sql, [])

/-- The node that an input stands for. Raw SQL has as many placeholders as values. A list
that is no raw SQL joins its items as alternatives, a mapping joins its pairs, all of which
are to hold, and a ready node is itself. Nothing else is a condition. -/
def standsFor (input : Input) : Option Node :=
  match input.rawParts with
  | some (sql, operands) =>
      if Placeholder.count sql = operands.length then some (.raw sql operands false) else none
  | none =>
      match input with
      | .node given => some given
      | .fields entries => some (.map entries false)
      | .list items => some (.or items false)
      | .text _ | .value _ => none

/-- The values that inputs are, when each of them is one; a single input that is none leaves
nothing. -/
theorem values_of_eq_map_m (items : List Input) : valuesOf items = items.mapM asValue := by
  induction items with
  | nil => rfl
  | cons item rest inductionHypothesis =>
    rw [valuesOf, inductionHypothesis, List.mapM_cons]

/-- A list is raw SQL in both descriptions, with the same text and values, or in neither. Lists
with fewer than two items are in neither. -/
theorem raw_parts_list (items : List Input) : (list items).rawParts = splitRaw items := by
  match items with
  | [] => rfl
  | [_] => rfl
  | head :: next :: rest =>
    rw [rawParts, splitRaw, values_of_eq_map_m]
    cases head.asText with
    | none => rfl
    | some sql => cases (next :: rest).mapM asValue <;> rfl

/-- Raw SQL is accepted when it has as many placeholders as values, and then taken as it is. -/
theorem to_option_of_raw (sql : String) (operands : List Value) :
    (Node.ofRaw sql operands false).toOption =
      if Placeholder.count sql = operands.length then some (.raw sql operands false) else none := by
  unfold Node.ofRaw
  split <;> rfl

/-- A reduction takes an input for the node that it stands for, and refuses those that stand
for none. -/
theorem stands_for_eq (input : Input) :
    input.standsFor = (Node.ofInput input [] false).toOption := by
  unfold standsFor
  cases input with
  | node node => rfl
  | fields fields => rfl
  | text content => exact (to_option_of_raw content []).symm
  | list items =>
    rw [raw_parts_list, Node.ofInput]
    cases splitRaw items with
    | none => rfl
    | some parts => exact (to_option_of_raw parts.1 parts.2).symm
  | value operand =>
    cases operand with
    | text content => exact (to_option_of_raw content []).symm
    | _ => rfl

end Input

/-- What a condition says about atoms. -/
inductive Formula
  /-- Nothing. -/
  | omitted
  | atom (clause : Clause)
  | all (parts : List Formula)
  | any (parts : List Formula)
  | negation (inner : Formula)

namespace Formula

/-- What several truths come to; none when there are none. -/
def overLive (combine : List Bool → Bool) : List Bool → Option Bool
  | [] => none
  | first :: rest => some (combine (first :: rest))

mutual

/-- The truth of a formula when the truth of every atom is given; none when it has
nothing to say. -/
def truth (assignment : Clause → Bool) : Formula → Option Bool
  | .omitted => none
  | .atom clause => some (assignment clause)
  | .all parts => overLive (List.all · id) (truths assignment parts)
  | .any parts => overLive (List.any · id) (truths assignment parts)
  | .negation inner => (truth assignment inner).map Bool.not

/-- The truths of those formulas that have something to say. -/
def truths (assignment : Clause → Bool) : List Formula → List Bool
  | [] => []
  | part :: rest => (truth assignment part).toList ++ truths assignment rest

end

mutual

/-- The atoms of a formula, from the left. -/
def leaves : Formula → List Clause
  | .omitted => []
  | .atom clause => [clause]
  | .all parts => leavesAll parts
  | .any parts => leavesAll parts
  | .negation inner => leaves inner

/-- The atoms of several formulas, from the left. -/
def leavesAll : List Formula → List Clause
  | [] => []
  | part :: rest => leaves part ++ leavesAll rest

end

/-- A clause is an atom unless it is empty. -/
def ofClause (clause : Clause) : Formula := if clause.isEmpty then .omitted else .atom clause

/-- The formula, or the opposite one. -/
def signed (negated : Bool) (formula : Formula) : Formula :=
  if negated then .negation formula else formula

/-- What an input says is what the node says for which it stands. One that stands for none
says nothing. -/
def ofInput (below : Node → Option Formula) (input : Input) : Option Formula :=
  match input.standsFor with
  | some node => below node
  | none => some .omitted

/-- What a key without a hook says about a value: the comparison by the operator that
it names or that is inferred. -/
def ofComparison (config : Config) (key : String) (value : Value) : Formula :=
  let parts := config.splitKey key
  match (config.operators.select parts.2 value).1 with
  | some operator => ofClause (operator.build (config.column parts.1) value config.toOptions)
  | none => .omitted

/-- What a pair of a mapping says, given what nodes say. -/
def ofPair (below : Node → Option Formula) (config : Config) (pair : String × Value) :
    Option Formula :=
  match config.hooks.get? pair.1 with
  | none => some (ofComparison config pair.1 pair.2)
  | some hook =>
      match hook pair.1 pair.2 config.toOptions with
      | none => some .omitted
      | some input => ofInput below input

/-- What raw SQL says; nothing when it has another number of placeholders than
values. -/
def ofRaw (sql : String) (values : List Value) (negated : Bool) : Formula :=
  if sql.isEmpty ∨ Placeholder.count sql ≠ values.length then .omitted
  else signed negated (.atom ⟨sql, values⟩)

/-- What a node says, given what the nodes below say. Conjunctions join their children and
mappings their pairs, all of which hold; of the children of a disjunction some holds. The
pairs stand in ascending order of their keys where keys are sorted, and otherwise as they
were put in. -/
def ofNode (below : Node → Option Formula) (config : Config) : Node → Option Formula
  | .and children _ negated =>
      (children.mapM (ofInput below)).map fun parts => signed negated (.all parts)
  | .or children negated =>
      (children.mapM (ofInput below)).map fun parts => signed negated (.any parts)
  | .map fields negated =>
      let pairs := if config.sortKeys then fields.sorted else fields.entries
      (pairs.mapM (ofPair below config)).map fun parts => signed negated (.all parts)
  | .raw sql values negated => some (ofRaw sql values negated)

/-- What a condition says, when its nodes nest at most to a depth. -/
def ofCondition (config : Config) : Nat → Node → Option Formula
  | 0, _ => none
  | depth + 1, node => ofNode (ofCondition config depth) config node

end Formula

namespace Fragment

mutual

/-- What a fragment says. -/
def formula : Fragment → Formula
  | .leaf clause => .ofClause clause
  | .joined .and parts => .all (formulas parts)
  | .joined .or parts => .any (formulas parts)
  | .grouped negated inner => .signed negated inner.formula

/-- What several fragments say. -/
def formulas : List Fragment → List Formula
  | [] => []
  | part :: rest => part.formula :: formulas rest

end

/-- Several fragments say what each of them says, in the same order. -/
theorem formulas_eq_map (parts : List Fragment) : formulas parts = parts.map formula := by
  induction parts with
  | nil => rfl
  | cons part rest inductionHypothesis => simp [formulas, inductionHypothesis]

end Fragment

namespace Outcome

/-- The outcome is complete and its fragment says what a formula does. -/
structure Says (outcome : Outcome) (formula : Formula) : Prop where
  complete : outcome.issue = none
  same : outcome.fragment.formula = formula

/-- A part that is silent is complete and says nothing, as a hook does that returns no input. -/
theorem says_silent : silent.Says .omitted := ⟨rfl, rfl⟩

/-- A part refused leniently is complete and says nothing. It leaves an entry in the log only. -/
theorem says_refused (options : Options) (lenient : options.strict = false)
    (issue : ConditionIssue) : (refused options issue).Says .omitted := by
  simp only [refused, lenient]
  exact ⟨rfl, rfl⟩

end Outcome

namespace Reduction

/-- One way of reducing leaves nothing out that a way of reading says. -/
def Reads {α : Type} (reducePart : α → Option Outcome) (readPart : α → Option Formula) : Prop :=
  ∀ part outcome, reducePart part = some outcome →
    ∃ formula, readPart part = some formula ∧ outcome.Says formula

/-- An input is reduced to what it says when nodes are. Both sides take it for the same node, or
for none, and a refused input says nothing. -/
theorem of_input_reads {reduceNode : Node → Option Outcome} {readNode : Node → Option Formula}
    (config : Config) (lenient : config.strict = false) (nodes : Reads reduceNode readNode) :
    Reads (ofInput reduceNode config) (Formula.ofInput readNode) := by
  intro input outcome finished
  unfold ofInput at finished
  unfold Formula.ofInput
  have meant := input.stands_for_eq
  cases taken : Node.ofInput input [] false with
  | ok node =>
    have found : input.standsFor = some node := by rw [meant, taken]; rfl
    simp only [taken] at finished
    simp only [found]
    exact nodes node outcome finished
  | error issue =>
    have missing : input.standsFor = none := by rw [meant, taken]; rfl
    simp only [taken, Option.some.injEq] at finished
    simp only [missing]
    exact ⟨.omitted, rfl, finished ▸ Outcome.says_refused config.toOptions lenient issue⟩

/-- A comparison is reduced to what it says: the clause of its operator as one atom, or nothing
when no operator is found. -/
theorem of_comparison_says (config : Config) (lenient : config.strict = false) (key : String)
    (value : Value) :
    (ofComparison config key value).Says (Formula.ofComparison config key value) := by
  unfold ofComparison Formula.ofComparison
  cases selected : (config.operators.select (config.splitKey key).2 value).1 with
  | some operator =>
    simp only [selected]
    exact ⟨rfl, rfl⟩
  | none =>
    have refused := Outcome.says_refused config.toOptions lenient
      (.invalid (.text key) (some [value]))
    simp only [selected]
    exact ⟨refused.complete, refused.same⟩

/-- A pair of a mapping is reduced to what it says when nodes are. A hook takes the place of the
pair on both sides, and a key without one is a comparison. -/
theorem of_pair_reads {reduceNode : Node → Option Outcome} {readNode : Node → Option Formula}
    (config : Config) (lenient : config.strict = false) (nodes : Reads reduceNode readNode) :
    Reads (ofPair reduceNode config) (Formula.ofPair readNode config) := by
  intro pair outcome finished
  unfold ofPair at finished
  unfold Formula.ofPair
  cases registered : config.hooks.get? pair.1 with
  | none =>
    simp only [registered, Option.some.injEq] at finished
    exact ⟨_, rfl, finished ▸ of_comparison_says config lenient pair.1 pair.2⟩
  | some hook =>
    simp only [registered] at finished
    dsimp only
    cases returned : hook pair.1 pair.2 config.toOptions with
    | none =>
      simp only [returned, Option.some.injEq] at finished
      exact ⟨.omitted, rfl, finished ▸ Outcome.says_silent⟩
    | some input =>
      simp only [returned] at finished
      exact of_input_reads config lenient nodes input outcome finished

/-- Parts are all reduced to what they say, up to the last one. Every part is complete, so that
gathering never stops early, and the formulas stand in the order of the parts. -/
theorem of_parts_reads {α : Type} {reducePart : α → Option Outcome}
    {readPart : α → Option Formula} (reads : Reads reducePart readPart) (parts : List α)
    (gathered : Gathered) (finished : Gathered.ofParts reducePart parts = some gathered) :
    gathered.issue = none ∧ parts.mapM readPart = some (Fragment.formulas gathered.parts) := by
  induction parts generalizing gathered with
  | nil =>
    cases finished
    exact ⟨rfl, rfl⟩
  | cons part rest inductionHypothesis =>
    obtain ⟨first, reduced, ending⟩ := Gathered.of_parts_cons_iff.mp finished
    obtain ⟨formula, said, complete, same⟩ := reads part first reduced
    rcases ending with ⟨issue, halted, -⟩ | ⟨-, later, gatheredLater, rfl⟩
    · rw [complete] at halted
      cases halted
    · obtain ⟨laterComplete, laterSaid⟩ := inductionHypothesis later gatheredLater
      refine ⟨laterComplete, ?_⟩
      rw [List.mapM_cons, said, laterSaid]
      simp [Fragment.formulas, same]

/-- Raw SQL is reduced to what it says: nothing without text or with a wrong number of values,
and otherwise one atom, negated if the node is. -/
theorem of_raw_says (config : Config) (lenient : config.strict = false) (sql : String)
    (values : List Value) (negated : Bool) :
    (ofRaw config sql values negated).Says (Formula.ofRaw sql values negated) := by
  unfold ofRaw Formula.ofRaw
  by_cases blank : sql.isEmpty = true
  · simp only [blank, if_true, true_or]
    exact Outcome.says_silent
  · by_cases fits : Placeholder.count sql = values.length
    · have atom : Formula.ofClause ⟨sql, values⟩ = .atom ⟨sql, values⟩ := by
        simp [Formula.ofClause, Clause.isEmpty, blank]
      simp only [blank, fits, if_true, ne_eq, not_true_eq_false, or_self, if_false,
        Bool.false_eq_true]
      exact ⟨rfl, congrArg (Formula.signed negated) atom⟩
    · simp only [blank, fits, if_false, ne_eq, not_false_eq_true, or_true, if_true,
        Bool.false_eq_true]
      exact Outcome.says_refused config.toOptions lenient _

/-- One layer of reduction keeps to what its node says. The shapes agree connective by
connective; a bare conjunction lacks only its parentheses, which say nothing. -/
theorem of_node_reads {reduceNode : Node → Option Outcome} {readNode : Node → Option Formula}
    (config : Config) (lenient : config.strict = false) (nodes : Reads reduceNode readNode) :
    Reads (ofNode reduceNode config) (Formula.ofNode readNode config) := by
  have conjoined (bare negated : Bool) (parts : List Fragment) :
      (conjunction bare negated parts).formula =
        .signed negated (.all (Fragment.formulas parts)) := by
    cases bare <;> cases negated <;> rfl
  intro node outcome finished
  cases node with
  | raw sql values negated =>
    cases finished
    exact ⟨_, rfl, of_raw_says config lenient sql values negated⟩
  | and children bare negated =>
    obtain ⟨gathered, reached, rfl⟩ := Option.map_eq_some_iff.mp finished
    obtain ⟨complete, said⟩ :=
      of_parts_reads (of_input_reads config lenient nodes) children gathered reached
    exact ⟨_, Option.map_eq_some_iff.mpr ⟨_, said, rfl⟩, complete, conjoined bare negated _⟩
  | or children negated =>
    obtain ⟨gathered, reached, rfl⟩ := Option.map_eq_some_iff.mp finished
    obtain ⟨complete, said⟩ :=
      of_parts_reads (of_input_reads config lenient nodes) children gathered reached
    exact ⟨_, Option.map_eq_some_iff.mpr ⟨_, said, rfl⟩, complete, rfl⟩
  | map fields negated =>
    obtain ⟨gathered, reached, rfl⟩ := Option.map_eq_some_iff.mp finished
    obtain ⟨complete, said⟩ :=
      of_parts_reads (of_pair_reads config lenient nodes) _ gathered reached
    exact ⟨_, Option.map_eq_some_iff.mpr ⟨_, said, rfl⟩, complete, conjoined false negated _⟩

end Reduction

/-- A lenient reduction is complete, and its fragment says what the condition does. The
induction is on the depth, one layer at a time. -/
theorem reduce_says (config : Config) (lenient : config.strict = false) (depth : Nat) (node : Node)
    (outcome : Outcome) (finished : reduce config depth node = some outcome) :
    ∃ formula, Formula.ofCondition config depth node = some formula ∧ outcome.Says formula := by
  induction depth generalizing node outcome with
  | zero => simp [reduce] at finished
  | succ depth inductionHypothesis =>
    exact Reduction.of_node_reads config lenient inductionHypothesis node outcome finished

end SqlCondition
