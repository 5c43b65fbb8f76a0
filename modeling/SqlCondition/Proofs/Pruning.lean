import SqlCondition.Proofs.Accumulation

/-!
# Parts that say nothing

Nothing is left of a part that is reduced to a clause without text. A join passes over
it, a group around it stays empty however it is negated, and the parts beside it are
reduced as if it were not there, up to the same issue. So a tree into which such parts
are inserted, at any depth and in any number, is reduced to the same clause.

One layer of this is about a list of children: what matters of the gathered parts are
the clauses that say something, and these are the same with and without the inserted
children. The layers are put together by induction over the depth of the reduction.
-/

namespace SqlCondition

/-! ## Trees with more children -/

/-- A list and the same list with more members: those that it has are changed in a given
way and stay in order, and the ones between them are of a given kind. -/
inductive Interspersed {α : Type} (extra : α → Prop) (changed : α → α → Prop) :
    List α → List α → Prop
  | nil : Interspersed extra changed [] []
  | keep {member other : α} {rest others : List α} (same : changed member other)
      (later : Interspersed extra changed rest others) :
      Interspersed extra changed (member :: rest) (other :: others)
  | insert {rest : List α} {member : α} {others : List α} (new : extra member)
      (later : Interspersed extra changed rest others) :
      Interspersed extra changed rest (member :: others)

/-- The reduction of the input comes to the outcome. -/
def Input.ComesTo (config : Config) (input : Input) (outcome : Outcome) : Prop :=
  ∃ depth, Reduction.ofInput (reduce config depth) config input = some outcome

/-- The input is reduced without an issue, to a clause that says nothing. -/
def Input.Blank (config : Config) (input : Input) : Prop :=
  ∃ outcome, input.ComesTo config outcome ∧ outcome.issue = none ∧
    outcome.fragment.clause.isEmpty = true

mutual

/-- One input is another with blank inputs inserted into its nodes. They may be inserted
into a list as well, as long as it is no raw SQL before and after that. -/
inductive Input.Padded (config : Config) : Input → Input → Prop
  | same (input : Input) : Input.Padded config input input
  | node {node other : Node} (padded : Node.Padded config node other) :
      Input.Padded config (.node node) (.node other)
  | list {items others : List Input} (apart : Input.splitRaw items = none)
      (apartToo : Input.splitRaw others = none)
      (each : Interspersed (Input.Blank config) (Input.Padded config) items others) :
      Input.Padded config (.list items) (.list others)

/-- One node is another with blank inputs inserted among its children, or among those of
nodes at any depth in it. -/
inductive Node.Padded (config : Config) : Node → Node → Prop
  | same (node : Node) : Node.Padded config node node
  | and {children others : List Input} (bare negated : Bool)
      (each : Interspersed (Input.Blank config) (Input.Padded config) children others) :
      Node.Padded config (.and children bare negated) (.and others bare negated)
  | or {children others : List Input} (negated : Bool)
      (each : Interspersed (Input.Blank config) (Input.Padded config) children others) :
      Node.Padded config (.or children negated) (.or others negated)

end

/-! ## One list of children -/

/-- Two outcomes are the same clause, complete or up to the same issue. -/
structure Outcome.Matches (one two : Outcome) : Prop where
  clause : one.fragment.clause = two.fragment.clause
  issue : one.issue = two.issue

/-- The clauses of the parts that say something. -/
def Gathered.live (gathered : Gathered) : List Clause :=
  (gathered.parts.map Fragment.clause).filter fun clause => !clause.isEmpty

/-- Nothing else is seen when the parts are joined, since parts that say nothing are dropped
before. -/
theorem Gathered.joined_of_live {one two : Gathered} (same : one.live = two.live)
    (connective : Connective) : one.joined connective = two.joined connective := by
  simp only [joined, Clause.join]
  rw [live, live] at same
  rw [same]

namespace Gathers

variable {config : Config} {item : Input} {rest : List Input} {first : Outcome}

/-- Children are gathered behind one without an issue. The depths at which the child and the
others settle add up to one at which all of them do. -/
theorem cons (settles : item.ComesTo config first) (complete : first.issue = none)
    {later : Gathered} (gathers : Gathers config rest later) :
    Gathers config (item :: rest)
      ⟨first.fragment :: later.parts, later.issue, first.events ++ later.events⟩ := by
  obtain ⟨own, reduced⟩ := settles
  obtain ⟨depth, finished⟩ := gathers
  refine ⟨own + depth, Gathered.of_parts_cons_iff.mpr ⟨first, ?_, .inr ⟨complete, later, ?_, rfl⟩⟩⟩
  · exact Reduction.of_input_extends (reduce_deeper config own depth) config item first reduced
  · rw [Nat.add_comm]
    exact Reduction.of_parts_extends
      (Reduction.of_input_extends (reduce_deeper config depth own) config) rest later finished

/-- A child with an issue is the last one that is gathered, whatever comes behind it. -/
theorem halt (settles : item.ComesTo config first) {issue : ConditionIssue}
    (halted : first.issue = some issue) :
    Gathers config (item :: rest) ⟨[first.fragment], some issue, first.events⟩ := by
  obtain ⟨depth, reduced⟩ := settles
  exact ⟨depth, Gathered.of_parts_cons_iff.mpr ⟨first, reduced, .inl ⟨issue, halted, rfl⟩⟩⟩

/-- From children with more among them that are blank the same live clauses are gathered,
up to the same issue, when the other children match. -/
theorem interspersed {depth : Nat} {changed : Input → Input → Prop}
    (matching : ∀ item other outcome, changed item other →
      Reduction.ofInput (reduce config depth) config item = some outcome →
      ∃ same, other.ComesTo config same ∧ same.Matches outcome)
    {children others : List Input} (each : Interspersed (Input.Blank config) changed children others)
    {gathered : Gathered}
    (finished : Gathered.ofParts (Reduction.ofInput (reduce config depth) config) children =
      some gathered) :
    ∃ more, Gathers config others more ∧ more.live = gathered.live ∧
      more.issue = gathered.issue := by
  induction each generalizing gathered with
  | nil => exact ⟨gathered, ⟨depth, finished⟩, rfl, rfl⟩
  | insert blank _ inductionHypothesis =>
    obtain ⟨outcome, settles, complete, silent⟩ := blank
    obtain ⟨more, gathers, live, issue⟩ := inductionHypothesis finished
    refine ⟨_, gathers.cons settles complete, ?_, issue⟩
    rw [← live]
    simp [Gathered.live, silent]
  | keep changed _ inductionHypothesis =>
    obtain ⟨first, reduced, ending⟩ := Gathered.of_parts_cons_iff.mp finished
    obtain ⟨same, settles, clause, ended⟩ := matching _ _ first changed reduced
    rcases ending with ⟨issue, halted, rfl⟩ | ⟨complete, later, gatheredLater, rfl⟩
    · refine ⟨_, .halt settles (ended.trans halted), ?_, rfl⟩
      simp only [Gathered.live, List.map_cons, List.map_nil, clause]
    · obtain ⟨more, gathers, live, issue⟩ := inductionHypothesis gatheredLater
      refine ⟨_, gathers.cons settles (ended.trans complete), ?_, issue⟩
      simp only [Gathered.live] at live
      simp only [Gathered.live, List.map_cons, List.filter_cons, clause, live]

end Gathers

/-! ## Whole trees -/

/-- A padded input comes to a matching outcome when padded nodes do. A list is a disjunction,
padded or not, because raw SQL is excluded on both sides. -/
theorem Input.Padded.comes_to {config : Config} {depth : Nat}
    (nodes : ∀ node other outcome, Node.Padded config node other →
      reduce config depth node = some outcome →
      ∃ same, Settles config other same ∧ same.Matches outcome)
    (item other : Input) (outcome : Outcome) (padded : Input.Padded config item other)
    (finished : Reduction.ofInput (reduce config depth) config item = some outcome) :
    ∃ same, other.ComesTo config same ∧ same.Matches outcome := by
  cases padded with
  | same => exact ⟨outcome, ⟨depth, finished⟩, rfl, rfl⟩
  | node padded => exact nodes _ _ outcome padded finished
  | @list items others apart apartToo each =>
    simp only [Reduction.ofInput, Node.ofInput, apart] at finished
    obtain ⟨same, ⟨enough, reduced⟩, matching⟩ := nodes _ _ outcome (.or false each) finished
    refine ⟨same, ⟨enough, ?_⟩, matching⟩
    simpa only [Reduction.ofInput, Node.ofInput, apartToo] using reduced

/-- A padded node comes to a matching outcome. By induction over the depth at which the node
itself is reduced; the padding may need more. -/
theorem Node.Padded.settles {config : Config} {depth : Nat} (node other : Node)
    (outcome : Outcome) (padded : Node.Padded config node other)
    (finished : reduce config depth node = some outcome) :
    ∃ same, Settles config other same ∧ same.Matches outcome := by
  induction depth generalizing node other outcome with
  | zero => simp [reduce] at finished
  | succ depth inductionHypothesis =>
    have inputs := Input.Padded.comes_to inductionHypothesis
    cases padded with
    | same => exact ⟨outcome, ⟨depth + 1, finished⟩, rfl, rfl⟩
    | and bare negated each =>
      obtain ⟨gathered, reached, rfl⟩ := Option.map_eq_some_iff.mp finished
      obtain ⟨more, gathers, live, issue⟩ := Gathers.interspersed inputs each reached
      refine ⟨_, gathers.conjunction bare negated, ?_, issue⟩
      rw [Gathered.conjunction_clause, Gathered.conjunction_clause, Gathered.joined_of_live live]
    | or negated each =>
      obtain ⟨gathered, reached, rfl⟩ := Option.map_eq_some_iff.mp finished
      obtain ⟨more, gathers, live, issue⟩ := Gathers.interspersed inputs each reached
      refine ⟨_, gathers.disjunction negated, ?_, issue⟩
      rw [Gathered.disjunction_clause, Gathered.disjunction_clause, Gathered.joined_of_live live]

/-- The reduction of a node comes to one outcome only, because any two depths that suffice are
both below a third. -/
theorem Settles.unique {config : Config} {node : Node} {one two : Outcome}
    (first : Settles config node one) (second : Settles config node two) : one = two := by
  obtain ⟨depth, reduced⟩ := first
  obtain ⟨more, reducedToo⟩ := second
  have deep := reduce_deeper config depth more node one reduced
  have deepToo := reduce_deeper config more depth node two reducedToo
  rw [Nat.add_comm more depth, deep] at deepToo
  exact Option.some.inj deepToo

/-- Blank parts are invisible. Wherever children that are reduced without an issue to nothing
are inserted into a tree whose reduction ends, its reduction ends too, with the same clause,
complete or up to the same issue. And whatever a tree is reduced to, with an issue or without,
there is no value in a clause without text.

One list of children is settled first: those that were there leave the same live clauses as
before, and those that were inserted leave none. Joining drops what is blank, so every level of
the tree has the clause it had. -/
theorem blank_parts_invisible (config : Config) (node : Node) (outcome : Outcome)
    (settles : Settles config node outcome) :
    (outcome.fragment.clause.isEmpty = true → outcome.fragment.clause.values = []) ∧
      ∀ padded, Node.Padded config node padded →
        (∃ same, Settles config padded same) ∧
          ∀ same, Settles config padded same →
            same.fragment.clause = outcome.fragment.clause ∧ same.issue = outcome.issue := by
  refine ⟨settles.tidy, fun padded inserted => ?_⟩
  obtain ⟨depth, finished⟩ := settles
  obtain ⟨same, reached, matching⟩ := inserted.settles _ _ outcome finished
  refine ⟨⟨same, reached⟩, fun other reachedToo => ?_⟩
  rw [reachedToo.unique reached]
  exact ⟨matching.clause, matching.issue⟩

/-- A strict configuration with an operator that binds a value and writes nothing. -/
def hollowConfig : Config :=
  { Config.default.withOptions { Options.default with strict := true } with
    operators := Registry.builtin.insert "hollow" (.ofBuilder fun _ operand _ => ⟨"", [operand]⟩) }

/-- A tree in which a key names no operator. -/
def sparseNode : Node :=
  .and [.fields (.ofList [("a", .int 1)]),
    .node (.or [.fields (.ofList [("b", .int 2)]), .fields (.ofList [("c__nope", .int 3)]),
      .fields (.ofList [("d", .int 4)])] true)] true true

/-- The same tree with empty nodes, texts and lists in it, and a comparison that writes
nothing. -/
def stuffedNode : Node :=
  .and [.node (.and [] false true), .fields (.ofList [("a", .int 1)]),
    .list [.fields (.ofList [("e__hollow", .int 5)])],
    .node (.or [.fields (.ofList [("b", .int 2)]), .node (.raw "" [.int 6] true),
      .fields (.ofList [("c__nope", .int 3)]), .list [],
      .fields (.ofList [("d", .int 4)])] true), .text ""] true true

/-- What is inserted says nothing, before the unknown operator and behind it, at two levels of
the tree. -/
theorem stuffed_padded : Node.Padded hollowConfig sparseNode stuffedNode := by
  have negated : Input.Blank hollowConfig (.node (.and [] false true)) :=
    ⟨_, ⟨1, rfl⟩, rfl, by decide⟩
  have compared : Input.Blank hollowConfig (.list [.fields (.ofList [("e__hollow", .int 5)])]) :=
    ⟨_, ⟨2, rfl⟩, rfl, by decide⟩
  have unbound : Input.Blank hollowConfig (.node (.raw "" [.int 6] true)) :=
    ⟨_, ⟨1, rfl⟩, rfl, by decide⟩
  have list : Input.Blank hollowConfig (.list []) := ⟨_, ⟨1, rfl⟩, rfl, by decide⟩
  have text : Input.Blank hollowConfig (.text "") := ⟨_, ⟨1, rfl⟩, rfl, by decide⟩
  refine .and true true (.insert negated (.keep (.same _) (.insert compared (.keep ?_
    (.insert text .nil)))))
  exact .node (.or true (.keep (.same _) (.insert unbound (.keep (.same _) (.insert list
    (.keep (.same _) .nil))))))

/-- Negated, empty and hollow parts, inserted before and behind an unknown operator, leave the
clause that was built up to it. -/
theorem stuffed_parts_invisible :
    (∃ outcome, Settles hollowConfig sparseNode outcome) ∧
      Node.Padded hollowConfig sparseNode stuffedNode ∧
      ∃ same, Settles hollowConfig stuffedNode same ∧
        same.fragment.clause.sql = "NOT ((\"a\" = ?) AND NOT ((\"b\" = ?)))" ∧
        same.fragment.clause.values = [.int 1, .int 2] ∧
        same.issue = some (.invalid (.text "c__nope") (some [.int 3])) := by
  have settles : Settles hollowConfig sparseNode _ := ⟨3, rfl⟩
  have invisible := (blank_parts_invisible hollowConfig sparseNode _ settles).2 _ stuffed_padded
  obtain ⟨⟨same, reached⟩, unchanged⟩ := invisible
  obtain ⟨clause, issue⟩ := unchanged same reached
  exact ⟨⟨_, settles⟩, stuffed_padded, same, reached, by rw [clause]; decide +kernel,
    by rw [clause]; rfl, issue⟩

end SqlCondition
