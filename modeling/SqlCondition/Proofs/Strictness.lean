import SqlCondition.Proofs.Assembly
import SqlCondition.Proofs.Form
import SqlCondition.Reduction

/-!
# Strict and lenient reductions side by side

A lenient reduction leaves refused parts out and notes each of them in the log. A
strict one ends at the first refused part and keeps what it has so far. When neither
hooks nor operators look at the flag, the two do the same work up to that part.

So there are only two ways in which they can stand to each other. Either nothing was
refused and they agree in everything, or the strict one halted: its log is what the
lenient log shows before the first note, its issue is the one of that note, and its
clause stops short of the lenient clause. Every layer of a reduction keeps to these
two ways, because the parts before the halt are shared and only the last part of the
strict reduction may be short.
-/

namespace SqlCondition

namespace Operator

/-- The clauses of the operator do not depend on the strict option. -/
def IgnoresStrict (operator : Operator) : Prop :=
  ∀ column value (options : Options) strict,
    operator.build column value { options with strict := strict } =
      operator.build column value options

/-- An operator with a template does not even see the options, the strict one included. -/
theorem ignores_strict_of_template (operator : Operator) (templated : operator.builder = none) :
    operator.IgnoresStrict := by
  intro column value options strict
  simp only [build, templated]

/-- No built-in operator looks at the strict option, template or not. -/
theorem IsBuiltin.ignores_strict {operator : Operator} (builtin : operator.IsBuiltin) :
    operator.IgnoresStrict := by
  rcases builtin.template_or_builder with templated | rfl | rfl | rfl
  · exact operator.ignores_strict_of_template templated
  · exact fun _ _ _ _ => rfl
  · exact fun _ _ _ _ => rfl
  · exact fun _ _ _ _ => rfl

end Operator

namespace Config

/-- The configuration with the strict option given. -/
def withStrict (config : Config) (strict : Bool) : Config :=
  config.withOptions { config.toOptions with strict := strict }

/-- Neither the hooks nor the operators look at the strict option. -/
structure IgnoresStrict (config : Config) : Prop where
  hooks : ∀ key hook, config.hooks.get? key = some hook → ∀ operand (options : Options) strict,
    hook key operand { options with strict := strict } = hook key operand options
  operators : ∀ name operator, config.operators.operators.get? name = some operator →
    operator.IgnoresStrict

/-- With the built-in operators it is up to the hooks whether anything looks at the option. -/
theorem ignores_strict_of_builtin (config : Config) (registry : config.operators = .builtin)
    (hooks : ∀ key hook, config.hooks.get? key = some hook → ∀ operand (options : Options) strict,
      hook key operand { options with strict := strict } = hook key operand options) :
    config.IgnoresStrict := by
  refine ⟨hooks, ?_⟩
  intro name operator registered
  rw [registry] at registered
  have listed := Table.mem_of_get?_of_list Registry.builtinOperators name operator registered
  exact Operator.IsBuiltin.ignores_strict ⟨name, listed⟩

end Config

namespace Registry

/-- Looking for an operator shows warnings only, about aliases that are followed too far. They
are no notes about refused parts. -/
theorem select_warns (registry : Registry) (name : Option String) (value : Value) :
    ∀ event ∈ (registry.select name value).2, event.severity = .warning := by
  have resolved (asked : String) :
      ∀ event ∈ (registry.resolve asked).2, event.severity = .warning := by
    intro event shown
    unfold resolve Lookup.events at shown
    split at shown
    · rw [List.mem_singleton.mp shown]
      rfl
    · cases shown
  cases name with
  | some name => exact resolved name
  | none => cases value <;> exact resolved _

end Registry

namespace Clause

/-- A clause stops short of another one when its values come first among the values
of the other, and it says nothing when the other does not. -/
structure StopsShort (cut whole : Clause) : Prop where
  live : whole.isEmpty = true → cut.isEmpty = true
  values : cut.values <+: whole.values

namespace StopsShort

/-- Every clause stops short of itself, weakly: all its values come first among its own. -/
theorem refl (clause : Clause) : clause.StopsShort clause := ⟨id, List.prefix_rfl⟩

/-- Groups stop short as their clauses do, because parentheses bind no values. -/
theorem grouped {cut whole : Clause} (short : cut.StopsShort whole) (negated : Bool) :
    (cut.grouped negated).StopsShort (whole.grouped negated) := by
  constructor
  · rw [grouped_is_empty, grouped_is_empty]
    exact short.live
  · rw [grouped_values, grouped_values]
    exact short.values

/-- A join stops short when its last clause does and those before it are shared. What comes
behind the last one in the longer join only adds values at the end. -/
theorem join {cut whole : Clause} (short : cut.StopsShort whole) (separator : String)
    (shared more : List Clause) :
    (Clause.join separator (shared ++ [cut])).StopsShort
      (Clause.join separator (shared ++ whole :: more)) := by
  constructor
  · simp only [join_is_empty, List.all_append, List.all_cons, List.all_nil, Bool.and_true,
      Bool.and_eq_true]
    rintro ⟨sharedSilent, wholeSilent, _⟩
    exact ⟨sharedSilent, short.live wholeSilent⟩
  · simp only [Clause.join, List.filter_append, List.flatMap_append]
    apply (List.prefix_append_right_inj _).mpr
    cases cutLive : cut.isEmpty with
    | true => simp [cutLive]
    | false =>
      have wholeLive : whole.isEmpty = false := by
        cases wholeSilent : whole.isEmpty with
        | false => rfl
        | true => exact (short.live wholeSilent).symm.trans cutLive
      simp only [List.filter_cons, cutLive, wholeLive, Bool.not_false, if_true, List.filter_nil,
        List.flatMap_cons, List.flatMap_nil, List.append_nil]
      exact short.values.trans (List.prefix_append _ _)

end StopsShort

end Clause

/-- Entries of the log of which none is about a refused part. -/
def Quiet (events : List Event) : Prop := ∀ event ∈ events, event.severity ≠ .debug

/-- An empty log is quiet, with no entry to look at. -/
theorem Quiet.nil : Quiet [] := fun _ shown => nomatch shown

/-- Quiet entries one after another are quiet, as each entry is judged by itself. -/
theorem Quiet.append {front back : List Event} (first : Quiet front) (second : Quiet back) :
    Quiet (front ++ back) := by
  intro event shown
  rcases List.mem_append.mp shown with early | late
  · exact first event early
  · exact second event late

/-- How a strict outcome stands to the lenient one: they agree, or the strict one
halted at an issue that the lenient one notes first. -/
inductive Outcome.Follows : Outcome → Outcome → Prop
  | agrees (fragment : Fragment) {events : List Event} (quiet : Quiet events) :
      Follows ⟨fragment, none, events⟩ ⟨fragment, none, events⟩
  | halted (issue : ConditionIssue) {cut whole : Fragment} (earlier later : List Event)
      (quiet : Quiet earlier) (short : cut.clause.StopsShort whole.clause) :
      Follows ⟨cut, some issue, earlier⟩ ⟨whole, none, earlier ++ .skipped issue :: later⟩

/-- How gathered strict parts stand to the lenient ones: when the strict ones halted,
all parts but the last are shared. -/
inductive Gathered.Follows : Gathered → Gathered → Prop
  | agrees (parts : List Fragment) {events : List Event} (quiet : Quiet events) :
      Follows ⟨parts, none, events⟩ ⟨parts, none, events⟩
  | halted (issue : ConditionIssue) (shared more : List Fragment) {cut whole : Fragment}
      (earlier later : List Event) (quiet : Quiet earlier)
      (short : cut.clause.StopsShort whole.clause) :
      Follows ⟨shared ++ [cut], some issue, earlier⟩
        ⟨shared ++ whole :: more, none, earlier ++ .skipped issue :: later⟩

namespace Outcome

/-- A part that is refused halts a strict reduction and is noted by a lenient one, with the same
issue. -/
theorem follows_refused (options : Options) (issue : ConditionIssue) :
    Follows (refused { options with strict := true } issue)
      (refused { options with strict := false } issue) :=
  .halted issue [] [] .nil (.refl .empty)

/-- What a strict outcome follows is complete. A lenient reduction never has an issue. -/
theorem Follows.complete {strict lenient : Outcome} (follows : strict.Follows lenient) :
    lenient.issue = none := by
  cases follows <;> rfl

/-- Shared entries in front keep how outcomes stand to each other, provided that none of them is
about a refused part. -/
theorem Follows.after {strict lenient : Outcome} (follows : strict.Follows lenient)
    {events : List Event} (quiet : Quiet events) :
    (strict.after events).Follows (lenient.after events) := by
  cases follows with
  | agrees fragment others => exact .agrees fragment (quiet.append others)
  | halted issue earlier later others short =>
    have sameLog : events ++ (earlier ++ .skipped issue :: later) =
        (events ++ earlier) ++ .skipped issue :: later := (List.append_assoc _ _ _).symm
    simp only [Outcome.after, sameLog]
    exact .halted issue (events ++ earlier) later (quiet.append others) short

end Outcome

/-- A way of putting fragments together that stops short as its last part does. -/
def KeepsShort (shape : List Fragment → Fragment) : Prop :=
  ∀ (shared more : List Fragment) (cut whole : Fragment), cut.clause.StopsShort whole.clause →
    (shape (shared ++ [cut])).clause.StopsShort (shape (shared ++ whole :: more)).clause

/-- Joined fragments do. All fragments before the last one are shared. -/
theorem keeps_short_joined (connective : Connective) : KeepsShort (.joined connective) := by
  intro shared more cut whole short
  simp only [Fragment.clause, Fragment.clauses_eq_map, List.map_append, List.map_cons, List.map_nil]
  exact short.join connective.separator (shared.map Fragment.clause) (more.map Fragment.clause)

/-- So do joined fragments in parentheses, negated or not. -/
theorem keeps_short_grouped (negated : Bool) (connective : Connective) :
    KeepsShort fun parts => .grouped negated (.joined connective parts) := by
  intro shared more cut whole short
  exact (keeps_short_joined connective shared more cut whole short).grouped negated

/-- Conjunctions do, with parentheses or without, and negated ones too. -/
theorem keeps_short_conjunction (bare negated : Bool) :
    KeepsShort (Reduction.conjunction bare negated) := by
  cases bare with
  | false => exact keeps_short_grouped negated .and
  | true =>
    cases negated with
    | true => exact keeps_short_grouped true .and
    | false => exact keeps_short_joined .and

/-- What a strict gathering follows is complete. A lenient gathering never has an issue. -/
theorem Gathered.Follows.complete {strict lenient : Gathered} (follows : strict.Follows lenient) :
    lenient.issue = none := by
  cases follows <;> rfl

/-- What is put together from gathered parts stands as the parts do, if the way of putting them
together keeps clauses short. -/
theorem Gathered.Follows.outcome {strict lenient : Gathered} (follows : strict.Follows lenient)
    {shape : List Fragment → Fragment} (keeps : KeepsShort shape) :
    (strict.outcome shape).Follows (lenient.outcome shape) := by
  cases follows with
  | agrees parts quiet => exact .agrees (shape parts) quiet
  | halted issue shared more earlier later quiet short =>
    exact .halted issue earlier later quiet (keeps shared more _ _ short)

namespace Reduction

/-- Wherever the lenient way of reducing finishes, the strict one does too, and its
outcome follows. -/
def Simulates {α : Type} (strictPart lenientPart : α → Option Outcome) : Prop :=
  ∀ part lenient, lenientPart part = some lenient →
    ∃ strict, strictPart part = some strict ∧ strict.Follows lenient

/-- Inputs are simulated when nodes are. What is refused as no condition halts the one reduction
and is noted by the other. -/
theorem of_input_simulates {strictNode lenientNode : Node → Option Outcome}
    (nodes : Simulates strictNode lenientNode) (config : Config) :
    Simulates (ofInput strictNode (config.withStrict true))
      (ofInput lenientNode (config.withStrict false)) := by
  intro input lenient finished
  unfold ofInput at finished ⊢
  cases taken : Node.ofInput input [] false with
  | ok node =>
    simp only [taken] at finished
    exact nodes node lenient finished
  | error issue =>
    simp only [taken, Option.some.injEq] at finished
    exact ⟨_, rfl, finished ▸ Outcome.follows_refused config.toOptions issue⟩

/-- Comparisons are simulated: the operator is looked for alike and writes the same. A key that
names none is refused by both. -/
theorem of_comparison_follows (config : Config) (ignores : config.IgnoresStrict) (key : String)
    (value : Value) :
    (ofComparison (config.withStrict true) key value).Follows
      (ofComparison (config.withStrict false) key value) := by
  have quiet : Quiet (config.operators.select (config.splitKey key).2 value).2 := by
    intro event shown
    rw [config.operators.select_warns _ value event shown]
    decide
  have sameSelected (strict : Bool) :
      (config.withStrict strict).operators.select ((config.withStrict strict).splitKey key).2 value =
        config.operators.select (config.splitKey key).2 value := rfl
  simp only [ofComparison, sameSelected]
  refine Outcome.Follows.after ?_ quiet
  cases selected : (config.operators.select (config.splitKey key).2 value).1 with
  | none => exact Outcome.follows_refused config.toOptions _
  | some operator =>
    have plain : Operator.plain.IgnoresStrict := Operator.ignores_strict_of_template _ rfl
    have alike : operator.IgnoresStrict :=
      config.operators.select_all ignores.operators plain _ value operator selected
    have same (strict : Bool) :
        operator.build ((config.withStrict strict).column ((config.withStrict strict).splitKey key).1)
            value (config.withStrict strict).toOptions =
          operator.build (config.column (config.splitKey key).1) value config.toOptions :=
      alike _ value config.toOptions strict
    simp only [same]
    exact .agrees _ .nil

/-- Pairs of a mapping are simulated when nodes are. The hook of a key returns the same under
either option. -/
theorem of_pair_simulates {strictNode lenientNode : Node → Option Outcome}
    (nodes : Simulates strictNode lenientNode) (config : Config) (ignores : config.IgnoresStrict) :
    Simulates (ofPair strictNode (config.withStrict true))
      (ofPair lenientNode (config.withStrict false)) := by
  intro pair lenient finished
  have sameHooks (strict : Bool) : (config.withStrict strict).hooks = config.hooks := rfl
  unfold ofPair at finished ⊢
  rw [sameHooks] at finished ⊢
  cases registered : config.hooks.get? pair.1 with
  | none =>
    simp only [registered, Option.some.injEq] at finished
    exact ⟨_, rfl, finished ▸ of_comparison_follows config ignores pair.1 pair.2⟩
  | some hook =>
    have alike (strict : Bool) : hook pair.1 pair.2 (config.withStrict strict).toOptions =
        hook pair.1 pair.2 config.toOptions :=
      ignores.hooks pair.1 hook registered pair.2 config.toOptions strict
    simp only [registered, alike] at finished ⊢
    cases returned : hook pair.1 pair.2 config.toOptions with
    | none =>
      simp only [returned, Option.some.injEq] at finished
      exact ⟨_, rfl, finished ▸ .agrees .empty .nil⟩
    | some input =>
      simp only [returned] at finished
      exact of_input_simulates nodes config input lenient finished

/-- Gathering parts follows when every part does. It halts with the first part that
halts, and the lenient gathering goes on. -/
theorem of_parts_follows {α : Type} {strictPart lenientPart : α → Option Outcome}
    (simulates : Simulates strictPart lenientPart) (parts : List α) (lenient : Gathered)
    (finished : Gathered.ofParts lenientPart parts = some lenient) :
    ∃ strict, Gathered.ofParts strictPart parts = some strict ∧ strict.Follows lenient := by
  induction parts generalizing lenient with
  | nil =>
    cases finished
    exact ⟨_, rfl, .agrees [] .nil⟩
  | cons part rest inductionHypothesis =>
    obtain ⟨first, reduced, ending⟩ := Gathered.of_parts_cons_iff.mp finished
    obtain ⟨strictFirst, strictReduced, follows⟩ := simulates part first reduced
    -- A lenient part never has an issue, so the lenient gathering goes on in either case.
    rcases ending with ⟨issue, halted, -⟩ | ⟨-, lenientLater, gatheredLater, rfl⟩
    · rw [follows.complete] at halted
      cases halted
    obtain ⟨strictLater, strictGathered, later⟩ := inductionHypothesis lenientLater gatheredLater
    cases follows with
    | agrees fragment quiet =>
      refine ⟨_, Gathered.of_parts_cons_iff.mpr
        ⟨_, strictReduced, .inr ⟨rfl, strictLater, strictGathered, rfl⟩⟩, ?_⟩
      cases later with
      | agrees parts others => exact .agrees (fragment :: parts) (quiet.append others)
      | halted issue shared more earlier noted others short =>
        rw [← List.append_assoc]
        exact .halted issue (fragment :: shared) more _ noted (quiet.append others) short
    | halted issue earlier noted quiet short =>
      refine ⟨_, Gathered.of_parts_cons_iff.mpr
        ⟨_, strictReduced, .inl ⟨issue, rfl, rfl⟩⟩, ?_⟩
      rw [later.complete, List.append_assoc, List.cons_append]
      exact .halted issue [] lenientLater.parts earlier _ quiet short

/-- One layer of reduction is simulated when the nodes below are. Lists and mappings gather
their parts, and raw SQL is checked alike. -/
theorem of_node_simulates {strictNode lenientNode : Node → Option Outcome}
    (nodes : Simulates strictNode lenientNode) (config : Config) (ignores : config.IgnoresStrict) :
    Simulates (ofNode strictNode (config.withStrict true))
      (ofNode lenientNode (config.withStrict false)) := by
  have inputs := of_input_simulates nodes config
  have pairs := of_pair_simulates nodes config ignores
  intro node lenient finished
  cases node with
  | raw sql values negated =>
    cases finished
    refine ⟨_, rfl, ?_⟩
    unfold ofRaw
    split
    · exact .agrees .empty .nil
    · split
      · exact .agrees _ .nil
      · exact Outcome.follows_refused config.toOptions _
  | and children bare negated =>
    obtain ⟨gathered, reached, rfl⟩ := Option.map_eq_some_iff.mp finished
    obtain ⟨strict, strictReached, follows⟩ := of_parts_follows inputs children gathered reached
    exact ⟨_, Option.map_eq_some_iff.mpr ⟨strict, strictReached, rfl⟩,
      follows.outcome (keeps_short_conjunction bare negated)⟩
  | or children negated =>
    obtain ⟨gathered, reached, rfl⟩ := Option.map_eq_some_iff.mp finished
    obtain ⟨strict, strictReached, follows⟩ := of_parts_follows inputs children gathered reached
    exact ⟨_, Option.map_eq_some_iff.mpr ⟨strict, strictReached, rfl⟩,
      follows.outcome (keeps_short_grouped negated .or)⟩
  | map fields negated =>
    obtain ⟨gathered, reached, rfl⟩ := Option.map_eq_some_iff.mp finished
    obtain ⟨strict, strictReached, follows⟩ := of_parts_follows pairs _ gathered reached
    exact ⟨_, Option.map_eq_some_iff.mpr ⟨strict, strictReached, rfl⟩,
      follows.outcome (keeps_short_conjunction false negated)⟩

end Reduction

/-- Strict reductions follow lenient ones at every depth, by induction over it. -/
theorem reduce_simulates (config : Config) (ignores : config.IgnoresStrict) (depth : Nat) :
    Reduction.Simulates (reduce (config.withStrict true) depth)
      (reduce (config.withStrict false) depth) := by
  induction depth with
  | zero =>
    intro node lenient finished
    simp [reduce] at finished
  | succ depth inductionHypothesis =>
    exact Reduction.of_node_simulates inductionHypothesis config ignores

namespace Event

/-- What an entry of the log reports as an error. -/
def error? : Event → Option String
  | .skipped issue | .ignored issue => some issue.message
  | .aliasTooDeep _ | .built _ _ _ => none

/-- The entry notes that a part of a condition was left out. -/
def NotesSkip (event : Event) : Prop :=
  event.severity = .debug ∧ event.message = "skipping invalid condition"

end Event

/-- Behind quiet entries the first note of a log is the first entry about a refused part,
whatever comes later. -/
theorem Quiet.find_note {earlier : List Event} (quiet : Quiet earlier) (note : Event)
    (later : List Event) (noted : note.severity = .debug) :
    (earlier ++ note :: later).find? (fun event => event.severity = .debug) = some note := by
  have none : earlier.find? (fun event => event.severity = .debug) = none :=
    List.find?_eq_none.mpr fun event shown => by simpa using quiet event shown
  rw [List.find?_append, none, Option.none_or, List.find?_cons_of_pos (by simpa using noted)]

/-- The entry about a clause is quiet, complete or not: it informs about what was built. -/
theorem Built.quiet_event (built : Built) : Quiet [built.event] := by
  intro event shown
  rw [List.mem_singleton.mp shown]
  intro same
  cases same

/-- Building strictly and leniently agree as long as nothing is refused. The lenient clause is
always complete, and the strict log notes nothing. The strict one is complete exactly when the
lenient log notes no part that was left out, and is the same clause then. Otherwise its issue is
the one that the lenient log notes first, and its values come first among the lenient ones.

Both reductions are followed side by side, layer by layer. They share everything up to the first
part that is refused, and only the last part of what the strict one has may be short. -/
theorem strict_build_follows_lenient (depth : Nat) (config : Config)
    (ignores : config.IgnoresStrict) (input : Input) (values : List Value) (negated : Bool)
    (lenient : Built) (lenientLog : List Event)
    (finished : build depth (config.withStrict false) input values negated =
      some (lenient, lenientLog)) :
    ∃ strict strictLog,
      build depth (config.withStrict true) input values negated = some (strict, strictLog) ∧
      lenient.issue = none ∧
      (∀ event ∈ strictLog, event.severity ≠ .debug) ∧
      (strict.issue = none ↔ ∀ event ∈ lenientLog, ¬ event.NotesSkip) ∧
      (strict.issue = none → strict.clause = lenient.clause) ∧
      ∀ issue, strict.issue = some issue →
        (lenientLog.find? fun event => event.severity = .debug).bind Event.error? =
            some issue.message ∧
          strict.clause.values <+: lenient.clause.values := by
  obtain ⟨strictOutcome, lenientOutcome, strictBuilt, lenientBuilt, follows⟩ :
      ∃ strictOutcome lenientOutcome,
        build depth (config.withStrict true) input values negated =
            some (Built.ofOutcome strictOutcome) ∧
          Built.ofOutcome lenientOutcome = (lenient, lenientLog) ∧
          strictOutcome.Follows lenientOutcome := by
    unfold build at finished ⊢
    cases taken : Node.ofInput input values negated with
    | ok node =>
      simp only [taken] at finished
      obtain ⟨lenientOutcome, reduced, same⟩ := Option.map_eq_some_iff.mp finished
      obtain ⟨strictOutcome, strictReduced, follows⟩ :=
        reduce_simulates config ignores depth node lenientOutcome reduced
      exact ⟨strictOutcome, lenientOutcome, Option.map_eq_some_iff.mpr ⟨_, strictReduced, rfl⟩,
        same, follows⟩
    | error issue =>
      simp only [taken, Option.some.injEq] at finished
      exact ⟨_, _, rfl, finished, Outcome.follows_refused config.toOptions issue⟩
  obtain ⟨rfl, rfl⟩ := Prod.mk.inj lenientBuilt
  refine ⟨_, _, strictBuilt, ?_⟩
  cases follows with
  | agrees fragment quiet =>
    have log := quiet.append (Built.quiet_event ⟨fragment.clause, none⟩)
    refine ⟨rfl, log, ⟨fun _ event shown note => log event shown note.1, fun _ => rfl⟩,
      fun _ => rfl, ?_⟩
    intro issue refused
    cases refused
  | @halted issue cut whole earlier later quiet short =>
    have note : Event.skipped issue ∈ earlier ++ .skipped issue :: later :=
      List.mem_append_right earlier List.mem_cons_self
    refine ⟨rfl, quiet.append (Built.quiet_event ⟨cut.clause, some issue⟩), ⟨?_, ?_⟩, ?_, ?_⟩
    · intro complete
      cases complete
    · intro unnoted
      exact absurd ⟨rfl, rfl⟩ (unnoted _ (List.mem_append_left _ note))
    · intro complete
      cases complete
    · intro reported same
      cases same
      refine ⟨?_, short.values⟩
      rw [List.append_assoc, List.cons_append, quiet.find_note _ _ rfl]
      rfl

/-- A key that stands for two comparisons, the second by an unknown operator. -/
def seenConfig : Config :=
  Config.default.withHook "seen" fun _ operand _ =>
    some (.fields (.ofList [("seen__gt", operand), ("kind__nope", .int 4), ("kind", .int 5)]))

/-- No hook of it looks at the options, and its operators are the built-in ones. -/
theorem seen_ignores_strict : seenConfig.IgnoresStrict := by
  refine seenConfig.ignores_strict_of_builtin rfl ?_
  intro key hook registered operand options strict
  cases List.mem_singleton.mp (Table.mem_of_get?_of_list [("seen", _)] key hook registered)
  rfl

/-- A list in which the hooked key is the second one of three. -/
def seenInput : Input :=
  .list [.fields (.ofList [("a", .int 1)]), .fields (.ofList [("b", .int 2), ("seen", .int 3)]),
    .fields (.ofList [("c", .int 6), ("d__nope", .int 7)])]

/-- The strict list stops inside what the hook returned. Its values are the first three of the
five that the lenient list binds. -/
theorem strict_seen_follows_lenient :
    seenConfig.IgnoresStrict ∧
      ∃ lenient lenientLog strict strictLog,
        build 5 (seenConfig.withStrict false) seenInput [] true = some (lenient, lenientLog) ∧
        build 5 (seenConfig.withStrict true) seenInput [] true = some (strict, strictLog) ∧
        lenient.clause.values = [.int 1, .int 2, .int 3, .int 5, .int 6] ∧
        strict.clause.values = [.int 1, .int 2, .int 3] ∧
        strict.clause.values <+: lenient.clause.values ∧
        strict.issue = some (.invalid (.text "kind__nope") (some [.int 4])) := by
  have follows := strict_build_follows_lenient 5 seenConfig seen_ignores_strict seenInput [] true
    _ _ rfl
  obtain ⟨strict, strictLog, built, _, _, _, _, halted⟩ := follows
  cases built
  exact ⟨seen_ignores_strict, _, _, _, _, rfl, rfl, rfl, rfl, (halted _ rfl).2, rfl⟩

end SqlCondition
