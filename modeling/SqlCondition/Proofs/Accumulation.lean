import Mathlib.Data.List.Forall2
import SqlCondition.Proofs.Assembly
import SqlCondition.Proofs.History
import SqlCondition.Proofs.Termination

/-!
# A plan as the fold of its conditions

The tree of a plan nests: an alternative makes everything so far one side of a
disjunction. Still what the tree is reduced to can be had from the conditions alone.
Each is built by itself, and one after another their clauses are combined with the
clause so far, which an alternative encloses and any other condition extends.

The tree is a bare conjunction at all times, and the parts of its children, joined,
are the clause so far. Placing one more condition keeps this, in each of the three
ways, and the fold follows by induction over the history. An issue ends the reduction
of every conjunction and disjunction around it, so after the first condition with an
issue no clause is heard any more; only the groups around it still close.
-/

namespace SqlCondition

namespace Clause

/-- Putting clauses one after another is associative, since it is so for their texts and for
their values. Parentheses in a row of clauses may therefore be moved. -/
theorem append_assoc (front middle back : Clause) :
    front ++ middle ++ back = front ++ (middle ++ back) := by
  have parts : front ++ middle ++ back =
      ⟨front.sql ++ middle.sql ++ back.sql, front.values ++ middle.values ++ back.values⟩ := rfl
  rw [parts, String.append_assoc, List.append_assoc]
  rfl

/-- A clause without text has no values either. -/
def Tidy (clause : Clause) : Prop := clause.isEmpty = true → clause.values = []

/-- A tidy clause without text is the empty clause: it has no values that could be bound without
a placeholder, so nothing of it can be told from nothing. -/
theorem Tidy.eq_empty {clause : Clause} (tidy : clause.Tidy) (silent : clause.isEmpty = true) :
    clause = .empty := by
  obtain ⟨sql, values⟩ := clause
  have text : sql = "" := (is_empty_iff _).mp silent
  have nothing : values = [] := tidy silent
  subst text nothing
  rfl

/-- A join is tidy whatever its clauses are. Clauses without text are dropped together with
their values, so that a join without text has joined nothing. -/
theorem join_tidy (separator : String) (clauses : List Clause) :
    (join separator clauses).Tidy := by
  intro silent
  rw [join_is_empty, List.all_eq_true] at silent
  have none : (clauses.filter fun clause => !clause.isEmpty) = [] :=
    List.filter_eq_nil_iff.mpr fun clause member => by simp [silent clause member]
  simp [join, none]

/-- Grouping keeps a clause tidy. A clause without text is left as it is, and any other becomes
one with text. -/
theorem Tidy.grouped {clause : Clause} (tidy : clause.Tidy) (negated : Bool) :
    (clause.grouped negated).Tidy := by
  intro silent
  rw [grouped_values]
  exact tidy (by rwa [grouped_is_empty] at silent)

/-- A tidy clause is the join of itself. Without text it is the empty clause, which joins to
itself; with text it is the only live one. -/
theorem Tidy.join_singleton {clause : Clause} (tidy : clause.Tidy) (separator : String) :
    join separator [clause] = clause := by
  cases live : clause.isEmpty with
  | true => rw [join_cons_empty separator clause [] live, tidy.eq_empty live]; rfl
  | false => rw [join_cons separator clause [] live]; rfl

/-- An empty clause at the end of a join changes nothing, since it is dropped before the
separators are put in. -/
theorem join_pair_empty (separator : String) (clause : Clause) :
    join separator [clause, .empty] = join separator [clause] := by
  cases live : clause.isEmpty with
  | true =>
    rw [join_cons_empty separator clause _ live, join_cons_empty separator clause _ live]
    rfl
  | false => rw [join_cons separator clause _ live, join_cons separator clause _ live]; rfl

/-- One more clause at the end is joined with the join of the others. So a long join can be
built one clause at a time, which is how a plan grows. -/
theorem join_append_singleton (separator : String) (clauses : List Clause) (last : Clause) :
    join separator (clauses ++ [last]) = join separator [join separator clauses, last] := by
  induction clauses with
  | nil => exact (join_cons_empty separator _ _ rfl).symm
  | cons clause rest inductionHypothesis =>
    rw [List.cons_append]
    cases live : clause.isEmpty with
    | true => rw [join_cons_empty separator clause _ live, inductionHypothesis,
        join_cons_empty separator clause rest live]
    | false =>
      have spoken : (join separator (clause :: rest)).isEmpty = false := by simp [live]
      rw [join_cons separator clause _ live, join_cons separator _ [last] spoken,
        join_cons separator clause rest live, inductionHypothesis]
      -- When the rest says nothing, the last clause alone may stand behind the first.
      cases silent : rest.all isEmpty with
      | true =>
        have front : (join separator rest).isEmpty = true := by rw [join_is_empty, silent]
        rw [join_cons_empty separator _ [last] front]
        simp [silent]
      | false =>
        have front : (join separator rest).isEmpty = false := by rw [join_is_empty, silent]
        have whole : (rest ++ [last]).all isEmpty = false := by simp [List.all_append, silent]
        rw [join_cons separator _ [last] front]
        simp only [whole, Bool.false_eq_true, if_false]
        split
        · rfl
        · simp only [append_assoc]

/-- The values of two tidy clauses that are joined are those of the first and then those of the
second. Tidiness is needed for a clause that the join drops. -/
theorem join_pair_values (separator : String) {front back : Clause} (first : front.Tidy)
    (second : back.Tidy) :
    (join separator [front, back]).values = front.values ++ back.values := by
  cases live : front.isEmpty with
  | true =>
    rw [join_cons_empty separator front _ live, second.join_singleton, first live, List.nil_append]
  | false =>
    rw [join_cons separator front _ live, second.join_singleton]
    split
    · rename_i silent
      have nothing : back.values = [] := second (by simpa using silent)
      rw [nothing, List.append_nil]
    · simp

end Clause

/-! ## Gathering one more part -/

namespace Gathered

/-- The parts as one joined clause. -/
def joined (connective : Connective) (gathered : Gathered) : Clause :=
  Clause.join connective.separator (gathered.parts.map Fragment.clause)

/-- The outcomes of parts with the outcome of one more. After an issue it is not asked
for any more. -/
def push (gathered : Gathered) (last : Outcome) : Gathered :=
  match gathered.issue with
  | some _ => gathered
  | none => ⟨gathered.parts ++ [last.fragment], last.issue, gathered.events ++ last.events⟩

/-- What is gathered is joined to a tidy clause, as every join is. -/
theorem joined_tidy (connective : Connective) (gathered : Gathered) :
    (gathered.joined connective).Tidy :=
  Clause.join_tidy _ _

/-- One more part is gathered after all others, unless an issue came before it. Gathering
recurses from the first part on, so this is an induction over the parts in front. -/
theorem of_parts_push {α : Type} {reducePart : α → Option Outcome} (parts : List α) (part : α)
    (gathered : Gathered) (last : Outcome)
    (finished : ofParts reducePart parts = some gathered) (reduced : reducePart part = some last) :
    ofParts reducePart (parts ++ [part]) = some (gathered.push last) := by
  induction parts generalizing gathered with
  | nil =>
    have same : (⟨[], none, []⟩ : Gathered) = gathered := Option.some.inj finished
    subst same
    cases ended : last.issue with
    | some issue =>
      refine of_parts_cons_iff.mpr ⟨last, reduced, .inl ⟨issue, ended, ?_⟩⟩
      simp [push, ended]
    | none =>
      refine of_parts_cons_iff.mpr ⟨last, reduced, .inr ⟨ended, _, rfl, ?_⟩⟩
      simp [push, ended]
  | cons earlier rest inductionHypothesis =>
    obtain ⟨first, begun, ending⟩ := of_parts_cons_iff.mp finished
    rcases ending with ⟨issue, ended, rfl⟩ | ⟨ended, later, gatheredLater, rfl⟩
    · exact of_parts_cons_iff.mpr ⟨first, begun, .inl ⟨issue, ended, rfl⟩⟩
    · have whole := inductionHypothesis later gatheredLater
      refine of_parts_cons_iff.mpr ⟨first, begun, .inr ⟨ended, later.push last, whole, ?_⟩⟩
      cases halted : later.issue <;> simp [push, halted]

end Gathered

/-- What is heard of a clause: nothing after an issue. -/
def Clause.unless (issue : Option ConditionIssue) (clause : Clause) : Clause :=
  if issue.isSome then .empty else clause

/-- The joined clause with one more part is the joined clause so far and the new one joined.
After an issue the new part contributes nothing. -/
theorem Gathered.joined_push (connective : Connective) (gathered : Gathered) (last : Outcome) :
    (gathered.push last).joined connective =
      Clause.join connective.separator
        [gathered.joined connective, last.fragment.clause.unless gathered.issue] := by
  unfold Clause.unless push
  cases gathered.issue with
  | some issue =>
    have whole := (gathered.joined_tidy connective).join_singleton connective.separator
    exact ((Clause.join_pair_empty _ _).trans whole).symm
  | none =>
    simp only [joined, List.map_append]
    exact Clause.join_append_singleton _ _ _

/-- The first issue is the one that stays; the issue of one more part counts only when there was
none before. -/
theorem Gathered.push_issue (gathered : Gathered) (last : Outcome) :
    (gathered.push last).issue = gathered.issue.or last.issue := by
  unfold push
  cases issue : gathered.issue with
  | some reason => simp [issue]
  | none => rfl

/-- The clause of a conjunction is the joined one, enclosed unless it is bare. A negated
conjunction is enclosed even when it is bare, for its NOT needs the parentheses. -/
theorem Gathered.conjunction_clause (gathered : Gathered) (bare negated : Bool) :
    (gathered.outcome (Reduction.conjunction bare negated)).fragment.clause =
      if bare && !negated then gathered.joined .and
      else (gathered.joined .and).grouped negated := by
  simp only [outcome, Reduction.conjunction, joined]
  split <;> simp only [Fragment.clause, Fragment.clauses_eq_map]

/-- The clause of a conjunction is tidy: a join is, and parentheses around it keep that. -/
theorem Gathered.conjunction_tidy (gathered : Gathered) (bare negated : Bool) :
    (gathered.outcome (Reduction.conjunction bare negated)).fragment.clause.Tidy := by
  rw [gathered.conjunction_clause]
  split
  · exact gathered.joined_tidy .and
  · exact (gathered.joined_tidy .and).grouped negated

/-- The clause of a disjunction is the joined one, enclosed in every case, so that alternatives
never stand beside AND without parentheses. -/
theorem Gathered.disjunction_clause (gathered : Gathered) (negated : Bool) :
    (gathered.outcome (Reduction.disjunction negated)).fragment.clause =
      (gathered.joined .or).grouped negated := by
  simp only [outcome, Reduction.disjunction, joined, Fragment.clause, Fragment.clauses_eq_map]

/-- The clause of raw SQL is tidy. Raw SQL is the only leaf that is not joined with others, and
it is written only when it has text. -/
theorem Reduction.of_raw_tidy (config : Config) (sql : String) (values : List Value)
    (negated : Bool) : (ofRaw config sql values negated).fragment.clause.Tidy := by
  unfold ofRaw
  split
  · exact fun _ => rfl
  · rename_i spoken
    split
    · refine Clause.Tidy.grouped (fun silent => ?_) negated
      exact absurd silent spoken
    · rw [refused_fragment]
      exact fun _ => rfl

/-- The reduction of the node comes to the outcome. -/
def Settles (config : Config) (node : Node) (outcome : Outcome) : Prop :=
  ∃ depth, reduce config depth node = some outcome

/-- What a node is reduced to is tidy. Only joins, groups and raw SQL are written at the top,
and each of these is. -/
theorem Settles.tidy {config : Config} {node : Node} {outcome : Outcome}
    (settles : Settles config node outcome) : outcome.fragment.clause.Tidy := by
  obtain ⟨depth, finished⟩ := settles
  cases depth with
  | zero => simp [reduce] at finished
  | succ depth =>
    cases node with
    | raw sql values negated =>
      exact Option.some.inj finished ▸ Reduction.of_raw_tidy config sql values negated
    | and children bare negated =>
      obtain ⟨gathered, _, rfl⟩ := Option.map_eq_some_iff.mp finished
      exact gathered.conjunction_tidy bare negated
    | map fields negated =>
      obtain ⟨gathered, _, rfl⟩ := Option.map_eq_some_iff.mp finished
      exact gathered.conjunction_tidy false negated
    | or children negated =>
      obtain ⟨gathered, _, rfl⟩ := Option.map_eq_some_iff.mp finished
      rw [gathered.disjunction_clause]
      exact (gathered.joined_tidy .or).grouped negated

/-- The reductions of the children come to what is gathered. -/
def Gathers (config : Config) (children : List Input) (gathered : Gathered) : Prop :=
  ∃ depth, Gathered.ofParts (Reduction.ofInput (reduce config depth) config) children =
    some gathered

namespace Gathers

variable {config : Config} {children : List Input} {gathered : Gathered}

/-- A node without children gathers nothing, at any depth and without an issue. -/
theorem nil (config : Config) : Gathers config [] ⟨[], none, []⟩ := ⟨0, rfl⟩

/-- One more node is gathered after the children. The depths that both need are made one by
reducing at the greater of them, which changes no outcome. -/
theorem push (gathers : Gathers config children gathered) {node : Node} {last : Outcome}
    (settles : Settles config node last) :
    Gathers config (children ++ [.node node]) (gathered.push last) := by
  obtain ⟨depth, finished⟩ := gathers
  obtain ⟨more, reduced⟩ := settles
  have together : reduce config (depth + more) node = some last :=
    Nat.add_comm more depth ▸ reduce_deeper config more depth node last reduced
  refine ⟨depth + more, Gathered.of_parts_push children (.node node) gathered last ?_ together⟩
  exact Reduction.of_parts_extends
    (Reduction.of_input_extends (reduce_deeper config depth more) config) children gathered finished

/-- A conjunction comes to the conjunction of what is gathered from its children, one layer
above the depth at which these are reduced. -/
theorem conjunction (gathers : Gathers config children gathered) (bare negated : Bool) :
    Settles config (.and children bare negated)
      (gathered.outcome (Reduction.conjunction bare negated)) := by
  obtain ⟨depth, finished⟩ := gathers
  exact ⟨depth + 1, Option.map_eq_some_iff.mpr ⟨gathered, finished, rfl⟩⟩

/-- A disjunction comes to the disjunction of what is gathered from its children, one layer
above the depth at which these are reduced. -/
theorem disjunction (gathers : Gathers config children gathered) (negated : Bool) :
    Settles config (.or children negated) (gathered.outcome (Reduction.disjunction negated)) := by
  obtain ⟨depth, finished⟩ := gathers
  exact ⟨depth + 1, Option.map_eq_some_iff.mpr ⟨gathered, finished, rfl⟩⟩

end Gathers

namespace Plan

/-! ## Placing one more condition -/

/-- The clause so far with one more clause that is added this way. -/
def Way.combine : Way → Clause → Clause → Clause
  | .or, sofar, clause =>
      (Clause.join Connective.or.separator [sofar.grouped false, clause]).grouped false
  | .and, sofar, clause | .not, sofar, clause =>
      Clause.join Connective.and.separator [sofar, clause]

/-- The tree is a bare conjunction whose children come to the clause and the issue. -/
def Stands (config : Config) (root : Node) (clause : Clause) (issue : Option ConditionIssue) :
    Prop :=
  ∃ children gathered, root = .and children true false ∧ Gathers config children gathered ∧
    gathered.joined .and = clause ∧ gathered.issue = issue

namespace Stands

variable {config : Config} {root : Node} {clause : Clause} {issue : Option ConditionIssue}

/-- The tree of a new plan stands for the empty clause. It is a bare conjunction of nothing. -/
theorem bare (config : Config) : Stands config .bare .empty none :=
  ⟨[], _, rfl, .nil config, rfl, rfl⟩

/-- What the tree is reduced to is the clause for which it stands, with its issue. A bare
conjunction is written as the join of its children, without parentheses. -/
theorem settles (stands : Stands config root clause issue) :
    ∃ outcome, Settles config root outcome ∧ outcome.fragment.clause = clause ∧
      outcome.issue = issue := by
  obtain ⟨children, gathered, rfl, gathers, rfl, rfl⟩ := stands
  exact ⟨_, gathers.conjunction true false, gathered.conjunction_clause true false, rfl⟩

/-- One more condition that must hold is joined with the clause so far. After an issue the join
is left as it is, because the condition is not reduced any more. -/
theorem push (stands : Stands config root clause issue) {node : Node} {last : Outcome}
    (settles : Settles config node last) :
    Stands config (root.push node)
      (Clause.join Connective.and.separator [clause, last.fragment.clause.unless issue])
      (issue.or last.issue) := by
  obtain ⟨children, gathered, rfl, gathers, rfl, rfl⟩ := stands
  exact ⟨_, _, rfl, gathers.push settles, gathered.joined_push .and last, gathered.push_issue last⟩

/-- Both sides of a disjunction come to the enclosed clause so far and the new clause,
joined and enclosed. -/
theorem disjoin (stands : Stands config root clause issue) {node : Node} {last : Outcome}
    (settles : Settles config node last) :
    ∃ outcome, Settles config (.or [.node root.enclosed, .node node] false) outcome ∧
      outcome.fragment.clause = Way.combine .or clause (last.fragment.clause.unless issue) ∧
      outcome.issue = issue.or last.issue := by
  obtain ⟨children, gathered, rfl, gathers, rfl, rfl⟩ := stands
  let earlier := gathered.outcome (Reduction.conjunction false false)
  have enclosed : Settles config (.and children false false) earlier :=
    gathers.conjunction false false
  have enclosedClause : earlier.fragment.clause = (gathered.joined .and).grouped false :=
    gathered.conjunction_clause false false
  -- The left side may have an issue already, and then the right side is not gathered.
  let left : Gathered := Gathered.push ⟨[], none, []⟩ earlier
  have leftClause : left.joined .or = earlier.fragment.clause := by
    refine Clause.Tidy.join_singleton ?_ Connective.or.separator
    exact enclosedClause ▸ (gathered.joined_tidy .and).grouped false
  have sides : Gathers config [.node (.and children false false), .node node] (left.push last) :=
    ((Gathers.nil config).push enclosed).push settles
  refine ⟨_, sides.disjunction false, ?_, left.push_issue last⟩
  rw [Gathered.disjunction_clause, Gathered.joined_push, leftClause, enclosedClause]
  rfl

/-- One more condition, in any way, is combined with the clause so far, unless there
was an issue before it. -/
theorem place (stands : Stands config root clause issue) (way : Way) {node : Node} {last : Outcome}
    (settles : Settles config node last) :
    Stands config (way.place root node)
      (way.combine clause (last.fragment.clause.unless issue)) (issue.or last.issue) := by
  cases way with
  | and => exact stands.push settles
  | not => exact stands.push settles
  | or =>
    obtain ⟨outcome, reduced, written, ended⟩ := stands.disjoin settles
    obtain ⟨children, gathered, bare, gathers, joined, same⟩ := (Stands.bare config).push reduced
    -- The disjunction is the only child of the new tree, and a tidy clause is joined to itself.
    refine ⟨children, gathered, bare, gathers, ?_, ?_⟩
    · have tidy : outcome.fragment.clause.Tidy :=
        written ▸ (Clause.join_tidy _ _).grouped false
      rw [joined, ← written]
      exact (Clause.join_cons_empty _ _ _ rfl).trans (tidy.join_singleton _)
    · rw [same, ended]
      rfl

end Stands

/-! ## Whole histories -/

/-- The condition by itself, with its own values and in its own way, is built to a
clause, complete or not. -/
def Condition.Builds (config : Config) (condition : Condition) (built : Built) : Prop :=
  ∃ depth events,
    build depth config condition.input condition.values condition.way.negated =
      some (built, events)

/-- The condition is accepted, and its node is reduced to a clause, complete or not. -/
def Condition.Reduces (config : Config) (condition : Condition) (built : Built) : Prop :=
  ∃ node outcome, condition.node = .ok node ∧ Settles config node outcome ∧
    outcome.fragment.clause = built.clause ∧ outcome.issue = built.issue

/-- What is built of an accepted condition is what its node is reduced to. Only a refused
condition is built without a reduction. -/
theorem Condition.Builds.reduces {config : Config} {condition : Condition} {built : Built}
    (builds : condition.Builds config built) (accepted : condition.accepted = true) :
    condition.Reduces config built := by
  obtain ⟨depth, events, finished⟩ := builds
  obtain ⟨node, taken⟩ := condition.accepted_iff.mp accepted
  rw [Condition.node] at taken
  simp only [build, taken, Option.map_eq_some_iff] at finished
  obtain ⟨outcome, reduced, same⟩ := finished
  cases same
  exact ⟨node, outcome, taken, ⟨depth, reduced⟩, rfl, rfl⟩

/-- What is heard of clauses that are built one after another, given an issue before
them: each up to the first issue, and nothing from there on. -/
def heard (issue : Option ConditionIssue) : List Built → List Clause
  | [] => []
  | built :: rest => built.clause.unless issue :: heard (issue.or built.issue) rest

/-- After an issue nothing is heard: each later clause counts as the empty one, whatever it is. -/
theorem heard_after_issue (issue : ConditionIssue) (builts : List Built) :
    heard (some issue) builts = builts.map fun _ => .empty := by
  induction builts with
  | nil => rfl
  | cons built rest inductionHypothesis => exact congrArg (Clause.empty :: ·) inductionHypothesis

/-- As long as no clause has an issue, everything is heard, and what follows is heard as if
nothing had been before it. -/
theorem heard_append (before after : List Built) (complete : ∀ built ∈ before, built.issue = none) :
    heard none (before ++ after) = before.map Built.clause ++ heard none after := by
  induction before with
  | nil => rfl
  | cons built rest inductionHypothesis =>
    obtain ⟨own, others⟩ := List.forall_mem_cons.mp complete
    rw [List.cons_append, heard, own]
    exact congrArg (built.clause :: ·) (inductionHypothesis others)

/-- Without issues everything is heard, every clause as it was built. -/
theorem heard_complete (builts : List Built) (complete : ∀ built ∈ builts, built.issue = none) :
    heard none builts = builts.map Built.clause := by
  have whole := heard_append builts [] complete
  rwa [List.append_nil, heard, List.append_nil] at whole

/-- The first clause with an issue is the last one that is heard. It is heard as far as it was
built, everything before it is whole, and behind it nothing is. -/
theorem heard_halted (before after : List Built) (failed : Built) (issue : ConditionIssue)
    (complete : ∀ built ∈ before, built.issue = none) (halted : failed.issue = some issue) :
    heard none (before ++ failed :: after) =
      before.map Built.clause ++ failed.clause :: after.map fun _ => .empty := by
  have rest : heard none (failed :: after) = failed.clause :: after.map fun _ => .empty := by
    rw [heard, halted]
    exact congrArg (failed.clause :: ·) (heard_after_issue issue after)
  rw [heard_append before (failed :: after) complete, rest]

/-- Clauses combined with the clause so far one after another, each in its way. -/
def combined (sofar : Clause) (ways : List Way) (clauses : List Clause) : Clause :=
  (ways.zip clauses).foldl (fun sofar step => step.1.combine sofar step.2) sofar

/-- A tree that stands for a clause stands, after more conditions, for what they are
combined to with it. -/
theorem Stands.run {config : Config} {conditions : List Condition} {builts : List Built}
    (reduces : List.Forall₂ (Condition.Reduces config) conditions builts)
    {root : Node} {clause : Clause} {issue : Option ConditionIssue}
    (stands : Stands config root clause issue) :
    Stands config (conditions.foldl Condition.place root)
      (combined clause (conditions.map Condition.way) (heard issue builts))
      (issue.or (builts.findSome? Built.issue)) := by
  induction reduces generalizing root clause issue with
  | nil => simpa [combined] using stands
  | @cons condition built rest later first _ inductionHypothesis =>
    obtain ⟨node, outcome, taken, settles, written, ended⟩ := first
    have placed : Condition.place root condition = condition.way.place root node := by
      rw [Condition.place, taken]
    have next := stands.place condition.way settles
    rw [written, ended, ← placed] at next
    -- The issue that ends the whole is looked for from the left, as it is remembered.
    have same : issue.or ((built :: later).findSome? Built.issue) =
        (issue.or built.issue).or (later.findSome? Built.issue) := by
      cases issue <;> cases halted : built.issue <;> simp [halted]
    rw [same]
    exact inductionHypothesis next

/-! ## Values in order -/

/-- Combining gives a tidy clause in every way of adding a condition, since all of them end in a
join or in a group of one. -/
theorem Way.combine_tidy (way : Way) (sofar clause : Clause) :
    (way.combine sofar clause).Tidy := by
  cases way with
  | and => exact Clause.join_tidy _ _
  | not => exact Clause.join_tidy _ _
  | or => exact (Clause.join_tidy _ _).grouped false

/-- In every way the values of the clause so far come first and those of the new clause behind
them. Both clauses have to be tidy for the join to keep their values. -/
theorem Way.combine_values (way : Way) {sofar clause : Clause} (first : sofar.Tidy)
    (second : clause.Tidy) : (way.combine sofar clause).values = sofar.values ++ clause.values := by
  cases way with
  | and => exact Clause.join_pair_values _ first second
  | not => exact Clause.join_pair_values _ first second
  | or =>
    rw [combine, Clause.grouped_values, Clause.join_pair_values _ (first.grouped false) second,
      Clause.grouped_values]

/-- Combined clauses keep their values in the order of the calls. The clause so far is tidy at
every step, so the step for one clause carries the induction. -/
theorem combined_values {ways : List Way} {clauses : List Clause}
    (each : List.Forall₂ (fun _ clause => clause.Tidy) ways clauses) {sofar : Clause}
    (tidy : sofar.Tidy) :
    (combined sofar ways clauses).values = sofar.values ++ clauses.flatMap Clause.values := by
  induction each generalizing sofar with
  | nil => simp [combined]
  | @cons way clause ways clauses first _ inductionHypothesis =>
    have later := inductionHypothesis (way.combine_tidy sofar clause)
    rw [way.combine_values tidy first, List.append_assoc] at later
    exact later

/-- What is heard of the conditions of a history is one tidy clause for each of them, also for
those that come after an issue and count as empty. -/
theorem heard_tidy {config : Config} {conditions : List Condition} {builts : List Built}
    (reduces : List.Forall₂ (Condition.Reduces config) conditions builts)
    (issue : Option ConditionIssue) :
    List.Forall₂ (fun _ clause => clause.Tidy) (conditions.map Condition.way)
      (heard issue builts) := by
  induction reduces generalizing issue with
  | nil => exact .nil
  | @cons condition built rest later first _ inductionHypothesis =>
    refine .cons ?_ (inductionHypothesis _)
    obtain ⟨node, outcome, _, settles, written, _⟩ := first
    unfold Clause.unless
    split
    · exact fun _ => rfl
    · exact written ▸ settles.tidy

/-! ## The fold -/

/-- Without the strict option every condition is built completely, because a lenient reduction
skips what it refuses and never records an issue. -/
theorem reduces_complete {config : Config} (lenient : config.strict = false)
    {conditions : List Condition} {builts : List Built}
    (reduces : List.Forall₂ (Condition.Reduces config) conditions builts) :
    ∀ built ∈ builts, built.issue = none := by
  induction reduces with
  | nil => exact fun _ member => nomatch member
  | @cons condition built rest later first _ inductionHypothesis =>
    obtain ⟨node, outcome, _, ⟨depth, reduced⟩, _, ended⟩ := first
    have complete : built.issue = none :=
      ended ▸ (reported_lenient lenient).of_reduce depth node outcome reduced
    exact List.forall_mem_cons.mpr ⟨complete, inductionHypothesis⟩

/-- When no clause has an issue, none is found among them. -/
theorem find_issue_complete (builts : List Built) (complete : ∀ built ∈ builts, built.issue = none) :
    builts.findSome? Built.issue = none :=
  List.findSome?_eq_none_iff.mpr complete

/-- Behind complete clauses the first issue that is found is that of the first clause that
failed, however many fail after it. -/
theorem find_issue_halted (before after : List Built) (failed : Built) (issue : ConditionIssue)
    (complete : ∀ built ∈ before, built.issue = none) (halted : failed.issue = some issue) :
    (before ++ failed :: after).findSome? Built.issue = some issue := by
  rw [List.findSome?_append, find_issue_complete before complete, Option.none_or,
    List.findSome?_cons, halted]

/-- An unread plan whose tree is reduced shows what the tree is reduced to. Nothing is kept from
an earlier read that could be shown instead. -/
theorem read_unread {plan : Plan} (unread : plan.built = none) {depth : Nat} {outcome : Outcome}
    (reduced : reduce plan.config depth plan.root = some outcome) :
    ∃ answer, plan.readBuilt depth = some answer ∧
      answer.value = ⟨outcome.fragment.clause, outcome.issue⟩ := by
  simp only [readBuilt, unread, build, Node.ofInput, reduced]
  exact ⟨_, rfl, rfl⟩

/-- A plan that was made by any history shows the fold of its accepted conditions, each
built by itself under the final configuration. Up to the first issue all of them are
heard, none after it, and this is the issue of the plan's clause. Refused conditions
make no difference.

The tree of the plan is the fold of `Condition.place`, so it stands for the combined
clauses by induction over the conditions. It was never read, so a read reduces it, and
some depth suffices because each of the conditions needs one. -/
theorem plan_is_fold_of_conditions (config : Config) (changes : List Change)
    (builts : List Built)
    (builds : List.Forall₂ (Condition.Builds ((ofConfig config).after changes).config)
      (conditions changes) builts) :
    ∃ enough, ∀ depth, enough ≤ depth → ∃ answer,
      ((ofConfig config).after changes).readBuilt depth = some answer ∧
      answer.value.clause =
        combined .empty ((conditions changes).map Condition.way) (heard none builts) ∧
      answer.value.clause.values = (heard none builts).flatMap Clause.values ∧
      (((ofConfig config).after changes).config.strict = false →
        ∀ built ∈ builts, built.issue = none) ∧
      ((∀ built ∈ builts, built.issue = none) →
        heard none builts = builts.map Built.clause ∧ answer.value.issue = none) ∧
      (∀ before failed after issue, builts = before ++ failed :: after →
        (∀ built ∈ before, built.issue = none) → failed.issue = some issue →
        heard none builts =
            before.map Built.clause ++ failed.clause :: after.map (fun _ => .empty) ∧
          answer.value.issue = some issue) ∧
      (((ofConfig config).after (changes.filter Change.taken)).readBuilt depth).map Answer.value =
        some answer.value := by
  have accepted : ∀ condition ∈ conditions changes, condition.accepted = true :=
    fun condition member => (List.mem_filter.mp member).2
  have reduces : List.Forall₂ (Condition.Reduces ((ofConfig config).after changes).config)
      (conditions changes) builts :=
    ((List.forall₂_and_left _ _).mpr ⟨accepted, builds⟩).imp fun _ _ both => both.2.reduces both.1
  have stands := Stands.run reduces (Stands.bare ((ofConfig config).after changes).config)
  obtain ⟨outcome, ⟨enough, finished⟩, written, ended⟩ := stands.settles
  refine ⟨enough, fun depth deep => ?_⟩
  have reduced : reduce ((ofConfig config).after changes).config depth
      ((ofConfig config).after changes).root = some outcome := by
    rw [root_after]
    exact Nat.add_sub_of_le deep ▸ reduce_deeper _ enough (depth - enough) _ outcome finished
  obtain ⟨answer, read, shown⟩ := read_unread (unread_after (ofConfig config) changes rfl) reduced
  have clause : answer.value.clause = combined .empty ((conditions changes).map Condition.way)
      (heard none builts) := shown ▸ written
  have issue : answer.value.issue = builts.findSome? Built.issue := shown ▸ ended
  refine ⟨answer, read, clause, ?_, ?_, ?_, ?_, ?_⟩
  · rw [clause]
    exact combined_values (heard_tidy reduces none) fun _ => rfl
  · exact fun lenient => reduces_complete lenient reduces
  · exact fun complete => ⟨heard_complete builts complete, issue ▸ find_issue_complete builts complete⟩
  · rintro before failed after reason rfl complete halted
    exact ⟨heard_halted before after failed reason complete halted,
      issue ▸ find_issue_halted before after failed reason complete halted⟩
  · obtain ⟨sameRoot, sameConfig⟩ := after_taken (ofConfig config) changes
    rw [← sameRoot, ← sameConfig] at reduced
    obtain ⟨other, readToo, shownToo⟩ :=
      read_unread (unread_after (ofConfig config) (changes.filter Change.taken) rfl) reduced
    rw [readToo, Option.map_some, shownToo, shown]

/-- A strict configuration. -/
def strictConfig : Config :=
  Config.default.withOptions { Options.default with strict := true }

/-- A history with conditions in all ways. One is refused, and the third accepted one
asks a hook that is registered later and returns no condition. -/
def mixedHistory : List Change :=
  [.add ⟨.and, .fields (.ofList [("age__gte", .int 18)]), []⟩,
    .add ⟨.not, .value (.int 3), []⟩,
    .add ⟨.or, .text "vip = ?", [.bool true]⟩,
    .table "people",
    .add ⟨.not, .fields (.ofList [("name", .text "x"), ("rank", .int 1), ("size", .int 2)]), []⟩,
    .hook "rank" fun _ _ _ => some (.value .null),
    .add ⟨.and, .text "late", []⟩]

/-- What its conditions are built to. -/
def mixedBuilts : List Built :=
  [⟨⟨"(\"people\".\"age\" >= ?)", [.int 18]⟩, none⟩,
    ⟨⟨"(vip = ?)", [.bool true]⟩, none⟩,
    ⟨⟨"NOT (\"people\".\"name\" = ?)", [.text "x"]⟩,
      some (.invalid (.value .null) none)⟩,
    ⟨⟨"(late)", []⟩, none⟩]

/-- A strict history with a refused condition, a change of the table and a hook that is
registered late. The third accepted condition fails, so its part so far is heard and the fourth
is not. -/
theorem mixed_history_is_fold :
    List.Forall₂ (Condition.Builds ((ofConfig strictConfig).after mixedHistory).config)
        (conditions mixedHistory) mixedBuilts ∧
      ∃ enough, ∀ depth, enough ≤ depth → ∃ answer,
        ((ofConfig strictConfig).after mixedHistory).readBuilt depth = some answer ∧
        answer.value.clause.sql =
          "(((\"people\".\"age\" >= ?)) OR (vip = ?)) AND NOT (\"people\".\"name\" = ?)" ∧
        answer.value.clause.values = [.int 18, .bool true, .text "x"] ∧
        answer.value.issue = some (.invalid (.value .null) none) := by
  have builds : List.Forall₂
      (Condition.Builds ((ofConfig strictConfig).after mixedHistory).config)
      (conditions mixedHistory) mixedBuilts :=
    .cons ⟨2, _, rfl⟩ (.cons ⟨2, _, rfl⟩ (.cons ⟨2, _, rfl⟩ (.cons ⟨2, _, rfl⟩ .nil)))
  obtain ⟨enough, shows⟩ := plan_is_fold_of_conditions strictConfig mixedHistory mixedBuilts builds
  refine ⟨builds, enough, fun depth deep => ?_⟩
  obtain ⟨answer, read, clause, values, _, _, halted, _⟩ := shows depth deep
  obtain ⟨_, issue⟩ := halted (mixedBuilts.take 2) _ _ _ rfl (by decide) rfl
  exact ⟨answer, read, clause ▸ rfl, values, issue⟩

end Plan

end SqlCondition
