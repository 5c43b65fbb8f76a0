import SqlCondition.Proofs.Shape
import SqlCondition.Proofs.Termination

/-!
# Operands do not steer the text

Two conditions are alike when they differ in nothing but operands of mappings, which
have the same shapes, and values of raw SQL, of which there are as many. Built side by
side they have the same text, bind as many values, and are refused at the same place
or not at all.

This holds without hooks and as long as the registered operators are built-in ones or
fill templates, since hooks, and operators that build their clauses themselves, may
write whatever they like. Every layer of a reduction keeps it, so it holds at every
depth, and without hooks there is always a depth that is enough.
-/

namespace SqlCondition

/-! ## Conditions side by side -/

/-- Two entries of mappings have the same key and operands of one shape. -/
def EntriesAlike (one two : String × Value) : Prop := one.1 = two.1 ∧ one.2.shape = two.2.shape

mutual

/-- Two inputs differ only in operands of mappings, which have the same shapes, and in
the values of raw SQL, of which there are as many. -/
inductive Input.Alike : Input → Input → Prop
  | fields {fields others : Table Value}
      (each : List.Forall₂ EntriesAlike fields.entries others.entries) :
      Input.Alike (.fields fields) (.fields others)
  | list {items others : List Input} (each : List.Forall₂ Input.Alike items others) :
      Input.Alike (.list items) (.list others)
  /-- A text with plain values behind it is raw SQL. -/
  | raw {head : Input} {operands others : List Input} (text : head.asText.isSome = true)
      (plain : ∀ operand ∈ operands ++ others, operand.asValue.isSome = true)
      (amount : operands.length = others.length) :
      Input.Alike (.list (head :: operands)) (.list (head :: others))
  | text (content : String) : Input.Alike (.text content) (.text content)
  | node {node other : Node} (alike : Node.Alike node other) :
      Input.Alike (.node node) (.node other)
  | value (operand : Value) : Input.Alike (.value operand) (.value operand)

/-- Two nodes differ in nothing else either. -/
inductive Node.Alike : Node → Node → Prop
  | and {children others : List Input} (bare negated : Bool)
      (each : List.Forall₂ Input.Alike children others) :
      Node.Alike (.and children bare negated) (.and others bare negated)
  | or {children others : List Input} (negated : Bool)
      (each : List.Forall₂ Input.Alike children others) :
      Node.Alike (.or children negated) (.or others negated)
  | map {fields others : Table Value} (negated : Bool)
      (each : List.Forall₂ EntriesAlike fields.entries others.entries) :
      Node.Alike (.map fields negated) (.map others negated)
  | raw (sql : String) {values others : List Value} (negated : Bool)
      (amount : values.length = others.length) :
      Node.Alike (.raw sql values negated) (.raw sql others negated)

end

namespace Input

/-- A text is like itself, whether it is given as a text or as a value. -/
theorem Alike.of_text {input : Input} (text : input.asText.isSome = true) : input.Alike input := by
  unfold asText at text
  split at text
  · exact .text _
  · exact .value _
  · cases text

/-- Inputs that are alike are the same text, or neither is a text. So what steers the reading of
a list is the same in both. -/
theorem Alike.as_text {one two : Input} (alike : one.Alike two) : one.asText = two.asText := by
  cases alike <;> rfl

/-- They are the same value, or neither is a value. A single value is not replaced: it is read
as text or refused. -/
theorem Alike.as_value {one two : Input} (alike : one.Alike two) : one.asValue = two.asValue := by
  cases alike <;> rfl

/-- Lists of inputs that are alike are the same raw SQL, or neither list is raw SQL. The text at
the head and the values behind it are looked at, and both agree. -/
theorem split_raw_alike {items others : List Input} (each : List.Forall₂ Alike items others) :
    splitRaw items = splitRaw others := by
  apply split_raw_congr
  · exact List.forall₂_eq_eq_eq ▸ List.rel_map (fun _ _ alike => alike.as_text) each
  · exact List.forall₂_eq_eq_eq ▸ List.rel_map (fun _ _ alike => alike.as_value) each

/-- Plain values are so many values: each of them provides itself and none is left out. -/
theorem values_of_plain {operands : List Input}
    (plain : ∀ operand ∈ operands, operand.asValue.isSome = true) :
    ∃ values, valuesOf operands = some values ∧ values.length = operands.length := by
  induction operands with
  | nil => exact ⟨[], rfl, rfl⟩
  | cons operand rest inductionHypothesis =>
    obtain ⟨value, same⟩ := Option.isSome_iff_exists.mp (plain operand List.mem_cons_self)
    obtain ⟨values, others, amount⟩ :=
      inductionHypothesis fun other inside => plain other (List.mem_cons_of_mem operand inside)
    exact ⟨value :: values, by simp [valuesOf, same, others], by simp [amount]⟩

end Input

namespace Node

/-- Two inputs come to nodes that are alike, or both are refused. -/
inductive TakenAlike : Except ConditionIssue Node → Except ConditionIssue Node → Prop
  | ok {one two : Node} (alike : one.Alike two) : TakenAlike (.ok one) (.ok two)
  | error (issue other : ConditionIssue) : TakenAlike (.error issue) (.error other)

/-- Raw SQL is accepted with any values of the same amount, or with none. Only their number is
compared with the placeholders. -/
theorem of_raw_alike (sql : String) {values others : List Value}
    (amount : values.length = others.length) (negated : Bool) :
    TakenAlike (ofRaw sql values negated) (ofRaw sql others negated) := by
  unfold ofRaw
  rw [amount]
  split
  · exact .ok (.raw sql negated amount)
  · exact .error _ _

/-- Inputs that are alike come to nodes that are, or both are refused. For raw SQL with values
behind it, both lists have as many of them, so they pass or fail the count together. -/
theorem of_input_alike {input other : Input} (alike : input.Alike other)
    {values others : List Value} (amount : values.length = others.length) (negated : Bool) :
    TakenAlike (ofInput input values negated) (ofInput other others negated) := by
  cases alike with
  | fields each => exact .ok (.map negated each)
  | node alike => exact .ok alike
  | text content => exact of_raw_alike content amount negated
  | value operand =>
    cases operand with
    | text content => exact of_raw_alike content amount negated
    | _ => exact .error _ _
  | @list items others each =>
    simp only [ofInput, Input.split_raw_alike each]
    cases Input.splitRaw others with
    | some parts => exact of_raw_alike parts.1 rfl negated
    | none => exact .ok (.or negated each)
  | @raw head operands others text plain amount =>
    obtain ⟨values, own, counted⟩ := Input.values_of_plain fun operand inside =>
      plain operand (List.mem_append_left _ inside)
    obtain ⟨second, further, countedToo⟩ := Input.values_of_plain fun operand inside =>
      plain operand (List.mem_append_right _ inside)
    obtain ⟨sql, spelled⟩ := Option.isSome_iff_exists.mp text
    cases operands with
    | nil =>
      cases List.length_eq_zero_iff.mp amount.symm
      exact .ok (.or negated (.cons (.of_text text) .nil))
    | cons first rest =>
      cases others with
      | nil => cases amount
      | cons next more =>
        simp only [ofInput, Input.splitRaw, spelled, own, further, Option.bind_eq_bind,
          Option.bind_some, Option.pure_def]
        exact of_raw_alike sql (counted.trans (amount.trans countedToo.symm)) negated

end Node

/-! ## Reductions side by side -/

/-- Fragments whose clauses are alike one by one. -/
abbrev FragmentsAlike : List Fragment → List Fragment → Prop :=
  List.Forall₂ fun one two => one.clause.Alike two.clause

/-- Two reductions have come to clauses that are alike, and both have an issue or
neither has one. -/
structure Outcome.Alike (one two : Outcome) : Prop where
  clause : one.fragment.clause.Alike two.fragment.clause
  issue : one.issue.isSome = two.issue.isSome

/-- Two reductions have gathered parts that are alike. -/
structure Gathered.Alike (one two : Gathered) : Prop where
  parts : FragmentsAlike one.parts two.parts
  issue : one.issue.isSome = two.issue.isSome

/-- A part that is refused is like any other one: nothing is written for it, and whether it
leaves an issue depends on the configuration alone. -/
theorem Outcome.alike_refused (options : Options) (issue other : ConditionIssue) :
    (refused options issue).Alike (refused options other) := by
  unfold refused
  split <;> exact ⟨.refl _, rfl⟩

/-- Outcomes stay alike whatever is logged before them. -/
theorem Outcome.Alike.after {one two : Outcome} (alike : one.Alike two) (events : List Event) :
    (one.after events).Alike (two.after events) :=
  ⟨alike.clause, alike.issue⟩

/-- Joined fragments are alike when their parts are, as joining looks at the clauses of the
parts only. -/
theorem Fragment.alike_joined (connective : Connective) {parts others : List Fragment}
    (each : FragmentsAlike parts others) :
    (joined connective parts).clause.Alike (joined connective others).clause := by
  rw [clause, clause, clauses_eq_map, clauses_eq_map]
  apply Clause.Alike.join
  rw [List.forall₂_map_left_iff, List.forall₂_map_right_iff]
  exact each

namespace Reduction

/-- Conjunctions are alike when their parts are, bare or in parentheses. -/
theorem alike_conjunction (bare negated : Bool) {parts others : List Fragment}
    (each : FragmentsAlike parts others) :
    (conjunction bare negated parts).clause.Alike (conjunction bare negated others).clause := by
  have inside := Fragment.alike_joined .and each
  unfold conjunction
  split
  · exact inside
  · exact inside.grouped negated

/-- Disjunctions of parts that are alike are alike as well. They always stand in parentheses. -/
theorem alike_disjunction (negated : Bool) {parts others : List Fragment}
    (each : FragmentsAlike parts others) :
    (disjunction negated parts).clause.Alike (disjunction negated others).clause :=
  (Fragment.alike_joined .or each).grouped negated

/-- A way of reducing parts does not tell them apart when they are alike: where it
finishes with one it finishes with the other, and the outcomes are alike. -/
def Respects {α : Type} (alike : α → α → Prop) (reducePart : α → Option Outcome) : Prop :=
  ∀ one two, alike one two → ∀ outcome, reducePart one = some outcome →
    ∃ other, reducePart two = some other ∧ outcome.Alike other

/-- Gathering does not tell lists of parts apart when reducing a part does not. The parts before
the first issue are alike one by one, and both lists end at the same part. -/
theorem of_parts_respects {α : Type} {alike : α → α → Prop} {reducePart : α → Option Outcome}
    (respects : Respects alike reducePart) {parts others : List α}
    (each : List.Forall₂ alike parts others) (gathered : Gathered)
    (finished : Gathered.ofParts reducePart parts = some gathered) :
    ∃ other, Gathered.ofParts reducePart others = some other ∧ gathered.Alike other := by
  induction each generalizing gathered with
  | nil =>
    cases finished
    exact ⟨_, rfl, .nil, rfl⟩
  | @cons one two rest more alike _ inductionHypothesis =>
    obtain ⟨first, reduced, ending⟩ := Gathered.of_parts_cons_iff.mp finished
    obtain ⟨second, reducedToo, outcomes⟩ := respects one two alike first reduced
    -- Both parts have an issue or neither has one, so both lists end here or both go on.
    have issues := outcomes.issue
    rcases ending with ⟨issue, ended, rfl⟩ | ⟨ended, later, gatheredLater, rfl⟩
    · obtain ⟨reason, endedToo⟩ : ∃ reason, second.issue = some reason :=
        Option.isSome_iff_exists.mp (issues.symm.trans (by rw [ended]; rfl))
      have other : Gathered.ofParts reducePart (two :: more) =
          some ⟨[second.fragment], some reason, second.events⟩ :=
        Gathered.of_parts_cons_iff.mpr ⟨second, reducedToo, .inl ⟨reason, endedToo, rfl⟩⟩
      exact ⟨_, other, .cons outcomes.clause .nil, rfl⟩
    · have goesOn : second.issue = none := by simpa [ended] using issues.symm
      obtain ⟨laterToo, gatheredToo, alikeLater⟩ := inductionHypothesis later gatheredLater
      have other := Gathered.of_parts_cons_iff.mpr
        ⟨second, reducedToo, .inr ⟨goesOn, laterToo, gatheredToo, rfl⟩⟩
      exact ⟨_, other, .cons outcomes.clause alikeLater.parts, alikeLater.issue⟩

/-- Inputs are not told apart when nodes are not. They come to nodes that are alike, or both are
refused. -/
theorem of_input_respects {reduceNode : Node → Option Outcome} (config : Config)
    (nodes : Respects Node.Alike reduceNode) :
    Respects Input.Alike (ofInput reduceNode config) := by
  intro one two alike outcome finished
  have none : ([] : List Value).length = ([] : List Value).length := rfl
  have taken := Node.of_input_alike alike none false
  unfold ofInput at finished ⊢
  generalize Node.ofInput one [] false = first at taken finished
  generalize Node.ofInput two [] false = second at taken
  cases taken with
  | ok alike => exact nodes _ _ alike outcome finished
  | error issue other =>
    cases finished
    exact ⟨_, rfl, Outcome.alike_refused config.toOptions issue other⟩

/-- Comparisons are not told apart by operands of one shape. The operator is selected by key and
shape, and it is built in or fills a template, so it writes the same text for both. -/
theorem of_comparison_alike (config : Config) (templated : config.operators.Templated) (key : String)
    {one two : Value} (same : one.shape = two.shape) :
    (ofComparison config key one).Alike (ofComparison config key two) := by
  simp only [ofComparison, ← config.operators.select_of_shape _ same]
  apply Outcome.Alike.after
  cases selected : (config.operators.select (config.splitKey key).2 one).1 with
  | none => exact Outcome.alike_refused config.toOptions _ _
  | some operator =>
    have shows := templated.select_shows_shape _ one operator selected
    exact ⟨shows _ config.toOptions one two same, rfl⟩

/-- Without hooks every pair of a mapping is a comparison, and comparisons are not told apart. -/
theorem of_pair_respects {reduceNode : Node → Option Outcome} (config : Config)
    (templated : config.operators.Templated) (unhooked : ∀ key, config.hooks.get? key = none) :
    Respects EntriesAlike (ofPair reduceNode config) := by
  intro one two alike outcome finished
  simp only [ofPair, unhooked, Option.some.injEq] at finished ⊢
  subst finished
  rw [← alike.1]
  exact ⟨_, rfl, of_comparison_alike config templated one.1 alike.2⟩

/-- Entries that are alike stay so in whatever order their keys are taken. Both mappings have
the same keys, so sorting moves the entries of both to the same places. -/
theorem pairs_alike (config : Config) {fields others : Table Value}
    (each : List.Forall₂ EntriesAlike fields.entries others.entries) :
    List.Forall₂ EntriesAlike (pairs config fields) (pairs config others) := by
  unfold pairs
  split
  · -- Sorting looks at the keys alone, so both lists are the sides of one sorted list of pairs.
    obtain ⟨amount, alike⟩ := List.forall₂_iff_zip.mp each
    let both := fields.entries.zip others.entries
    let sortedBoth := both.mergeSort fun first second => Table.ascending first.1 second.1
    have left : sortedBoth.map Prod.fst = fields.sorted := by
      have same := List.map_mergeSort (s := Table.ascending) (f := Prod.fst) (l := both)
        fun first _ second _ => rfl
      rw [same, List.map_fst_zip (Nat.le_of_eq amount)]
      rfl
    have right : sortedBoth.map Prod.snd = others.sorted := by
      have same : sortedBoth.map Prod.snd = (both.map Prod.snd).mergeSort Table.ascending := by
        apply List.map_mergeSort
        intro first firstInside second secondInside
        simp only [Table.ascending, (alike firstInside).1, (alike secondInside).1]
      rw [same, List.map_snd_zip (Nat.le_of_eq amount.symm)]
      rfl
    rw [← left, ← right, List.forall₂_map_left_iff, List.forall₂_map_right_iff, List.forall₂_same]
    intro pair inside
    exact alike (List.mem_mergeSort.mp inside)
  · exact each

/-- One layer of reduction does not tell nodes apart when the layers below do not. Lists and
mappings gather parts that are alike, and raw SQL is checked by the number of its values. -/
theorem of_node_respects {reduceNode : Node → Option Outcome} (config : Config)
    (templated : config.operators.Templated) (unhooked : ∀ key, config.hooks.get? key = none)
    (nodes : Respects Node.Alike reduceNode) : Respects Node.Alike (ofNode reduceNode config) := by
  have inputs := of_input_respects config nodes
  intro one two alike outcome finished
  cases alike with
  | @and children others bare negated each =>
    obtain ⟨gathered, reached, rfl⟩ := Option.map_eq_some_iff.mp finished
    obtain ⟨other, reachedToo, parts⟩ := of_parts_respects inputs each gathered reached
    exact ⟨_, Option.map_eq_some_iff.mpr ⟨other, reachedToo, rfl⟩,
      alike_conjunction bare negated parts.parts, parts.issue⟩
  | @or children others negated each =>
    obtain ⟨gathered, reached, rfl⟩ := Option.map_eq_some_iff.mp finished
    obtain ⟨other, reachedToo, parts⟩ := of_parts_respects inputs each gathered reached
    exact ⟨_, Option.map_eq_some_iff.mpr ⟨other, reachedToo, rfl⟩,
      alike_disjunction negated parts.parts, parts.issue⟩
  | @map fields others negated each =>
    obtain ⟨gathered, reached, rfl⟩ := Option.map_eq_some_iff.mp finished
    obtain ⟨other, reachedToo, parts⟩ :=
      of_parts_respects (of_pair_respects config templated unhooked) (pairs_alike config each)
        gathered reached
    exact ⟨_, Option.map_eq_some_iff.mpr ⟨other, reachedToo, rfl⟩,
      alike_conjunction false negated parts.parts, parts.issue⟩
  | @raw sql values others negated amount =>
    cases finished
    refine ⟨_, rfl, ?_⟩
    unfold ofRaw
    rw [amount]
    split
    · exact ⟨.refl _, rfl⟩
    · split
      · have written : Clause.Alike ⟨sql, values⟩ ⟨sql, others⟩ := ⟨rfl, amount⟩
        exact ⟨written.grouped negated, rfl⟩
      · exact Outcome.alike_refused config.toOptions _ _

end Reduction

/-- Reductions do not tell nodes apart when they are alike, by induction over the depth. -/
theorem reduce_respects (config : Config) (templated : config.operators.Templated)
    (unhooked : ∀ key, config.hooks.get? key = none) (depth : Nat) :
    Reduction.Respects Node.Alike (reduce config depth) := by
  induction depth with
  | zero =>
    intro one two _ outcome finished
    simp [reduce] at finished
  | succ depth inductionHypothesis =>
    exact Reduction.of_node_respects config templated unhooked inductionHypothesis

/-- What is built does not tell inputs apart when they are alike: it ends for both, with texts
and amounts that agree, and with an issue for both or neither. -/
theorem build_respects (config : Config) (templated : config.operators.Templated)
    (unhooked : ∀ key, config.hooks.get? key = none) {input other : Input}
    (alike : input.Alike other) {values others : List Value}
    (amount : values.length = others.length) (negated : Bool) (depth : Nat)
    (first : Built × List Event) (finished : build depth config input values negated = some first) :
    ∃ second, build depth config other others negated = some second ∧
      first.1.clause.Alike second.1.clause ∧ first.1.issue.isSome = second.1.issue.isSome := by
  have taken := Node.of_input_alike alike amount negated
  unfold build at finished ⊢
  generalize Node.ofInput input values negated = one at taken finished
  generalize Node.ofInput other others negated = two at taken
  cases taken with
  | error issue reason =>
    cases finished
    have refused := Outcome.alike_refused config.toOptions issue reason
    exact ⟨_, rfl, refused.clause, refused.issue⟩
  | ok alike =>
    obtain ⟨outcome, reduced, rfl⟩ := Option.map_eq_some_iff.mp finished
    obtain ⟨second, reducedToo, outcomes⟩ :=
      reduce_respects config templated unhooked depth _ _ alike outcome reduced
    exact ⟨_, Option.map_eq_some_iff.mpr ⟨second, reducedToo, rfl⟩, outcomes.clause, outcomes.issue⟩

/-- Operands do not steer the text. Without hooks, and with operators that are built in or fill
templates, building always ends, and two inputs that differ only in operands of the same shapes
and in the values of raw SQL come to the same text, to as many values, and to an issue both or
neither.

Building ends because only hooks could make a condition grow. That the results agree is shown
layer by layer: inputs that are alike are read as nodes that are, each layer keeps them alike
when the layers below do, and a comparison chooses and fills its operator by the shape of the
operand. -/
theorem operands_leave_text (config : Config) (templated : config.operators.Templated)
    (unhooked : ∀ key, config.hooks.get? key = none) (input other : Input)
    (alike : input.Alike other) (values others : List Value)
    (amount : values.length = others.length) (negated : Bool) :
    ∃ enough, ∀ depth, enough ≤ depth → ∃ first firstLog second secondLog,
      build depth config input values negated = some (first, firstLog) ∧
      build depth config other others negated = some (second, secondLog) ∧
      first.clause.sql = second.clause.sql ∧
      first.clause.values.length = second.clause.values.length ∧
      (first.issue = none ↔ second.issue = none) := by
  obtain ⟨enough, first, finished⟩ :
      ∃ depth first, build depth config input values negated = some first :=
    build_finishes fun node _ => (grounded_of_unhooked unhooked node).finishes
  obtain ⟨second, finishedToo, clauses, issues⟩ :=
    build_respects config templated unhooked alike amount negated enough first finished
  refine ⟨enough, fun depth deep => ⟨first.1, first.2, second.1, second.2, ?_, ?_, clauses.text,
    clauses.amount, ?_⟩⟩
  · exact Nat.add_sub_of_le deep ▸ build_deeper config enough (depth - enough) input values negated
      first finished
  · exact Nat.add_sub_of_le deep ▸ build_deeper config enough (depth - enough) other others negated
      second finishedToo
  · rw [← Option.not_isSome_iff_eq_none, ← Option.not_isSome_iff_eq_none, issues]

/-- A strict configuration with an alias and one more operator with a symbol. -/
def patternConfig : Config :=
  let options : Options := { Options.default with strict := true }
  { Config.default.withOptions options with
    operators := (Registry.builtin.insert "ne" (.ofAlias "notexact")).insert "regex" (.ofSymbol "~") }

/-- Its operators are built in or fill templates, as the two that are added to the built-in ones
do. -/
theorem pattern_templated : patternConfig.operators.Templated :=
  (Registry.templated_builtin.insert "ne" rfl).insert "regex" rfl

/-- A list of a mapping, raw SQL in form of a list, and a node of raw SQL. -/
def operandInput (name limit : Value) (ends : List Value) (bound : Input) (kind : Value) : Input :=
  .list
    [.fields (.ofList
      [("name__regex", name), ("ended__isnull", .bool false), ("day__between", .list ends),
        ("age__ne", limit)]),
      .list [.text "size > ?", bound], .node (.raw "kind = ?" [kind] true)]

/-- Harmless operands. -/
def modestInput : Input :=
  operandInput (.text "a") (.int 1) [.int 2, .int 3] (.value (.int 4)) (.int 5)

/-- Operands of the same shapes that look like SQL. -/
def hostileInput : Input :=
  operandInput (.text "') OR 1 = 1 --") (.text "?") [.null, .text "\"", .list []] (.text "?)") .null

/-- The two inputs differ in nothing but operands of the same shapes, entry by entry. -/
theorem modest_alike_hostile : modestInput.Alike hostileInput := by
  have mapping : List.Forall₂ EntriesAlike
      [("name__regex", .text "a"), ("ended__isnull", .bool false),
        ("day__between", .list [.int 2, .int 3]), ("age__ne", .int 1)]
      [("name__regex", .text "') OR 1 = 1 --"), ("ended__isnull", .bool false),
        ("day__between", .list [.null, .text "\"", .list []]), ("age__ne", .text "?")] :=
    .cons ⟨rfl, rfl⟩ (.cons ⟨rfl, rfl⟩ (.cons ⟨rfl, rfl⟩ (.cons ⟨rfl, rfl⟩ .nil)))
  have sized : Input.Alike (.list [.text "size > ?", .value (.int 4)])
      (.list [.text "size > ?", .text "?)"]) := .raw rfl (by simp [Input.asValue]) rfl
  exact .list (.cons (.fields mapping) (.cons sized (.cons (.node (.raw _ true rfl)) .nil)))

/-- Operands that look like SQL, with quotes, comments and placeholders in them, are written
with the text of harmless ones. -/
theorem hostile_operands_leave_text :
    modestInput.Alike hostileInput ∧
      ∃ first firstLog second secondLog,
        build 4 patternConfig modestInput [.null] false = some (first, firstLog) ∧
        build 4 patternConfig hostileInput [.int 6] false = some (second, secondLog) ∧
        second.clause.sql = "((\"name\" ~ ? AND \"ended\" IS NOT NULL AND " ++
          "\"day\" BETWEEN ? AND ? AND \"age\" <> ?) OR (size > ?) OR NOT (kind = ?))" ∧
        first.clause.sql = second.clause.sql ∧
        first.clause.values.length = second.clause.values.length ∧
        (first.issue = none ↔ second.issue = none) := by
  refine ⟨modest_alike_hostile, _, _, _, _, rfl, rfl, rfl, ?_⟩
  obtain ⟨enough, both⟩ := operands_leave_text patternConfig pattern_templated (fun _ => rfl)
    modestInput hostileInput modest_alike_hostile [.null] [.int 6] rfl false
  obtain ⟨first, firstLog, second, secondLog, built, builtToo, same⟩ :=
    both (4 + enough) (Nat.le_add_left _ _)
  rw [build_deeper _ 4 enough _ _ _ _ rfl] at built builtToo
  cases built
  cases builtToo
  exact same

end SqlCondition
