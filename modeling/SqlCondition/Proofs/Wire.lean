import SqlCondition.Proofs.Origin
import SqlCondition.Proofs.Shape
import SqlCondition.Proofs.Termination

/-!
# What mappings bind

Null, temporal values and bytes are never bound as they are, wherever they stand in a
list. The bound form of a value is free of them, and a value that is free of them is
its own bound form. Every operator that is built in or fills a template binds such
values only, whatever its own change of values returns.

So does every condition that is made of mappings alone: going below it leads to
mappings again, as long as there are no hooks. Numbering hands a value over as it is
or member by member, so the parameters are no different.
-/

namespace SqlCondition

namespace Value

mutual

/-- Whether a value can be bound as it is: it is not null, temporal or bytes, and no
member of it is, at any depth. -/
def wireSafe : Value → Bool
  | .null | .bytes _ | .date _ | .dateTime _ => false
  | .bool _ | .int _ | .float _ | .text _ => true
  | .list items => allWireSafe items

/-- Whether several values can be bound as they are. -/
def allWireSafe : List Value → Bool
  | [] => true
  | item :: rest => item.wireSafe && allWireSafe rest

end

/-- Several values can be bound as they are when each can, and only then. -/
theorem all_wire_safe_iff {items : List Value} :
    allWireSafe items = true ↔ ∀ item ∈ items, item.wireSafe = true := by
  induction items with
  | nil => simp [allWireSafe]
  | cons item rest inductionHypothesis => simp [allWireSafe, inductionHypothesis]

/-- Induction over values: a list with what holds of its members, and a value that is none. -/
theorem induction {motive : Value → Prop}
    (list : ∀ items, (∀ item ∈ items, motive item) → motive (.list items))
    (single : ∀ value, value.isList = false → motive value) : ∀ value, motive value
  | .list items => list items fun item _ => induction list single item
  | .null => single .null rfl
  | .bool truth => single (.bool truth) rfl
  | .int number => single (.int number) rfl
  | .float number => single (.float number) rfl
  | .text content => single (.text content) rfl
  | .bytes content => single (.bytes content) rfl
  | .date day => single (.date day) rfl
  | .dateTime time => single (.dateTime time) rfl

/-- The bound form of a value can be bound as it is, members of lists included. -/
theorem wire_safe_to_wire (value : Value) : value.toWire.wireSafe = true := by
  induction value using Value.induction with
  | list items inductionHypothesis =>
    rw [toWire, wireSafe, wires_eq_map, all_wire_safe_iff]
    intro bound inside
    obtain ⟨item, member, rfl⟩ := List.mem_map.mp inside
    exact inductionHypothesis item member
  | single value plain =>
    cases value with
    | list items => cases plain
    | _ => rfl

/-- The values that are their own bound form are those that can be bound as they are. For a list
that is so when it is of every member. -/
theorem to_wire_eq_self_iff (value : Value) : value.toWire = value ↔ value.wireSafe = true := by
  constructor
  · intro same
    exact same ▸ value.wire_safe_to_wire
  · intro safe
    induction value using Value.induction with
    | list items inductionHypothesis =>
      have each := all_wire_safe_iff.mp safe
      have same : items.map toWire = items.map id :=
        List.map_congr_left fun item member => inductionHypothesis item member (each item member)
      rw [toWire, wires_eq_map, same, List.map_id]
    | single value plain =>
      cases value with
      | list items => cases plain
      | null | bytes content | date day | dateTime time => cases safe
      | bool truth | int number | float number | text content => rfl

/-- The bound form of an end of a range can be bound as it is. A date or a time is written in
full as text, and any other end is its own bound form. -/
theorem wire_safe_to_range_bound (value : Value) : value.toRangeBound.wireSafe = true := by
  unfold toRangeBound
  split
  · rfl
  · exact value.wire_safe_to_wire

end Value

namespace Clause

/-- The clause binds only values that can be bound as they are. -/
def WireSafe (clause : Clause) : Prop := ∀ value ∈ clause.values, value.wireSafe = true

/-- Nothing binds no value, so all that it binds can be bound as it is. -/
theorem wire_safe_empty : WireSafe .empty := fun _ inside => nomatch inside

/-- Two such clauses one after the other bind the values of both, and nothing else. -/
theorem WireSafe.append {front back : Clause} (first : front.WireSafe) (second : back.WireSafe) :
    (front ++ back).WireSafe := by
  intro value inside
  rcases List.mem_append.mp inside with early | late
  · exact first value early
  · exact second value late

/-- Text without values binds none, so connectives and parentheses are such clauses. -/
theorem wire_safe_of_text (text : String) : (ofText text).WireSafe := fun _ inside => nomatch inside

end Clause

namespace Placeholder

/-- Every parameter of a numbered text is one of the values, or a member of one. Numbering makes
up no value. -/
theorem provided_of_number_from (quote previous : Option Char) (earlier : Nat)
    (values : List Value) (text : List Char) :
    ∀ parameter ∈ (numberFrom quote previous earlier values text).2,
      ∃ value ∈ values, ∃ parenthesized, parameter ∈ parameters parenthesized value := by
  induction text generalizing quote previous earlier values with
  | nil =>
    intro parameter inside
    cases inside
  | cons character rest inductionHypothesis =>
    intro parameter inside
    cases marked : isMark quote character with
    | false =>
      simp only [numberFrom, marked, Bool.false_eq_true, if_false] at inside
      exact inductionHypothesis _ _ earlier values parameter inside
    | true =>
      cases values with
      | nil =>
        simp only [numberFrom, marked, if_true] at inside
        exact inductionHypothesis none (some character) earlier [] parameter inside
      | cons value others =>
        simp only [numberFrom, marked, if_true] at inside
        rcases List.mem_append.mp inside with own | late
        · exact ⟨value, List.mem_cons_self, _, own⟩
        · obtain ⟨other, member, provided⟩ := inductionHypothesis _ _ _ others parameter late
          exact ⟨other, List.mem_cons_of_mem value member, provided⟩

/-- The parameters that a value provides can be bound as they are when the value can. Spread
over parentheses, they are its members. -/
theorem wire_safe_parameters {value : Value} (safe : value.wireSafe = true)
    (parenthesized : Bool) :
    ∀ parameter ∈ parameters parenthesized value, parameter.wireSafe = true := by
  intro parameter inside
  unfold parameters at inside
  split at inside
  · split at inside
    · exact Value.all_wire_safe_iff.mp safe parameter inside
    · exact List.mem_singleton.mp inside ▸ safe
  · exact List.mem_singleton.mp inside ▸ safe

end Placeholder

/-- Numbering a clause makes no parameter that cannot be bound as it is, from whatever number it
starts. -/
theorem Clause.WireSafe.numbered {clause : Clause} (safe : clause.WireSafe) (earlier : Nat) :
    (clause.numbered earlier).WireSafe := by
  intro parameter inside
  obtain ⟨value, member, parenthesized, provided⟩ :=
    Placeholder.provided_of_number_from _ _ _ _ _ parameter inside
  exact Placeholder.wire_safe_parameters (safe value member) parenthesized parameter provided

/-! ## Operators -/

namespace Operator

/-- Whatever the operator compares with, it binds only values that can be bound as they
are. -/
def BindsWire (operator : Operator) : Prop :=
  ∀ column value (options : Options), (operator.build column value options).WireSafe

/-- An operator with a template binds the bound form of whatever it changes the value to, even
where that is a null or a date. -/
theorem binds_wire_of_template (operator : Operator) (templated : operator.builder = none) :
    operator.BindsWire := by
  intro column value options bound inside
  simp only [build, templated] at inside
  exact List.mem_singleton.mp inside ▸ Value.wire_safe_to_wire _

/-- A range binds the bound forms of its ends, and nothing when an end is missing. -/
theorem binds_wire_between : (ofBuilder between).BindsWire := by
  intro column value options
  simp only [build, ofBuilder, between]
  split
  · intro bound inside
    simp only [List.mem_cons, List.not_mem_nil, or_false] at inside
    rcases inside with rfl | rfl <;> exact Value.wire_safe_to_range_bound _
  · exact Clause.wire_safe_empty

/-- A range of dates binds texts, one for each end. -/
theorem binds_wire_between_dates : (ofBuilder betweenDates).BindsWire := by
  intro column value options
  simp only [build, ofBuilder, betweenDates]
  split
  · intro bound inside
    simp only [List.mem_cons, List.not_mem_nil, or_false] at inside
    rcases inside with rfl | rfl <;> rfl
  · exact Clause.wire_safe_empty

/-- So does every built-in operator. A test for null binds nothing at all. -/
theorem IsBuiltin.binds_wire {operator : Operator} (builtin : operator.IsBuiltin) :
    operator.BindsWire := by
  rcases builtin.template_or_builder with templated | rfl | rfl | rfl
  · exact operator.binds_wire_of_template templated
  · exact binds_wire_between
  · exact binds_wire_between_dates
  · exact fun column value options bound inside => nomatch inside

end Operator

/-- What a registry of built-in operators and templates selects binds nothing else, whatever was
asked for. -/
theorem Registry.Templated.select_binds_wire {registry : Registry} (templated : registry.Templated)
    (name : Option String) (value : Value) (operator : Operator)
    (selected : (registry.select name value).1 = some operator) : operator.BindsWire := by
  rcases templated.select name value operator selected with builtin | fills
  · exact builtin.binds_wire
  · exact operator.binds_wire_of_template fills

/-! ## Conditions without raw SQL -/

mutual

/-- Whether an input is made of mappings: no raw SQL stands in it as a node, and no text
that could become some. -/
def Input.rawFree : Input → Bool
  | .fields _ => true
  | .list items => Input.allRawFree items
  | .text _ => false
  | .node node => node.rawFree
  | .value operand => operand.asText.isNone

/-- Whether a node is made of mappings. -/
def Node.rawFree : Node → Bool
  | .and children _ _ | .or children _ => Input.allRawFree children
  | .map _ _ => true
  | .raw _ _ _ => false

/-- Whether several inputs are made of mappings. -/
def Input.allRawFree : List Input → Bool
  | [] => true
  | item :: rest => item.rawFree && Input.allRawFree rest

end

/-- Several inputs are made of mappings when each is, and only then. -/
theorem Input.all_raw_free_iff {items : List Input} :
    allRawFree items = true ↔ ∀ item ∈ items, item.rawFree = true := by
  induction items with
  | nil => simp [allRawFree]
  | cons item rest inductionHypothesis => simp [allRawFree, inductionHypothesis]

/-- No text is made of mappings, nor is a text given as a value. -/
theorem Input.as_text_of_raw_free {input : Input} (free : input.rawFree = true) :
    input.asText = none := by
  cases input with
  | text content => cases free
  | value operand =>
    cases operand with
    | text content => cases free
    | _ => rfl
  | _ => rfl

/-- No list of mappings is raw SQL. Such a list begins with a text. -/
theorem Input.split_raw_of_raw_free {items : List Input} (free : allRawFree items = true) :
    splitRaw items = none := by
  match items with
  | [] | [_] => rfl
  | head :: next :: rest =>
    have spelled := Input.as_text_of_raw_free (all_raw_free_iff.mp free head List.mem_cons_self)
    simp only [splitRaw, spelled, Option.bind_eq_bind, Option.bind_none]

/-- The node that an input made of mappings is taken for is made of mappings. Of the ways to
take an input for a node, those that come to raw SQL want a text. -/
theorem Node.raw_free_of_input {input : Input} {values : List Value} {negated : Bool} {node : Node}
    (free : input.rawFree = true) (accepted : Node.ofInput input values negated = .ok node) :
    node.rawFree = true := by
  cases Node.of_input_taken accepted with
  | node node => exact free
  | fields fields => rfl
  | alternatives apart => exact free
  | list split fits =>
    rw [Input.split_raw_of_raw_free free] at split
    cases split
  | text spelled fits =>
    rw [Input.as_text_of_raw_free free] at spelled
    cases spelled

section

variable {config : Config} (unhooked : ∀ key, config.hooks.get? key = none)
include unhooked

/-- Without hooks, what stands below a node made of mappings is made of mappings: only items of
lists stand there. -/
theorem Below.raw_free {node child : Node} (below : Below config node child)
    (free : node.rawFree = true) : child.rawFree = true := by
  cases below with
  | conjunct member taken | alternative member taken =>
    exact Node.raw_free_of_input (Input.all_raw_free_iff.mp free _ member) taken
  | hooked member registered =>
    rw [unhooked] at registered
    cases registered

/-- So is all that is reached from it, step by step. -/
theorem Reaches.raw_free {node other : Node} (reached : Reaches config node other)
    (free : node.rawFree = true) : other.rawFree = true := by
  induction reached with
  | refl => exact free
  | tail _ below inductionHypothesis => exact below.raw_free unhooked inductionHypothesis

/-- The leaves of a condition made of mappings bind only values that can be bound as they are.
None of them is raw SQL. -/
theorem Origin.wire_safe {node : Node} {leaf : Clause} (templated : config.operators.Templated)
    (free : node.rawFree = true) (origin : Origin config node leaf) : leaf.WireSafe := by
  cases origin with
  | silent => exact Clause.wire_safe_empty
  | raw reached fits => cases reached.raw_free unhooked free
  | comparison column value selected =>
    exact templated.select_binds_wire _ value _ selected _ value _

/-- So does whatever is built of it, complete or up to an issue. Connectives and parentheses
bind nothing. -/
theorem build_wire_safe (templated : config.operators.Templated) (depth : Nat) (input : Input)
    (free : input.rawFree = true) (values : List Value) (negated : Bool)
    (result : Built × List Event) (finished : build depth config input values negated = some result) :
    result.1.clause.WireSafe := by
  refine build_clause_induction Clause.wire_safe_empty ?_ ?_ depth config input values negated ?_
    result finished
  · intro connective front back first second
    exact (first.append (Clause.wire_safe_of_text _)).append second
  · intro flag clause safe
    exact ((Clause.wire_safe_of_text _).append safe).append (Clause.wire_safe_of_text _)
  · intro node taken leaf origin
    exact origin.wire_safe unhooked templated (Node.raw_free_of_input free taken)

end

/-- Mappings bind nothing that has to be turned into a text first. Without hooks, and with
operators that are built in or fill templates, building a condition made of mappings always
ends, strictly or leniently. Whatever the clause binds and every parameter of its numbered form
is free of null, temporal values and bytes at every depth, and is its own bound form.

Every value comes from a comparison, whose operator binds bound forms. Numbering hands them on
or spreads a list over its members, which are bound forms too. -/
theorem mappings_bind_wire_values (config : Config) (templated : config.operators.Templated)
    (unhooked : ∀ key, config.hooks.get? key = none) (input : Input)
    (free : input.rawFree = true) (values : List Value) (negated : Bool) :
    ∃ enough built log,
      (∀ depth, enough ≤ depth → build depth config input values negated = some (built, log)) ∧
      (∀ value ∈ built.clause.values, value.wireSafe = true ∧ value.toWire = value) ∧
      ∀ earlier, ∀ parameter ∈ (built.clause.numbered earlier).values,
        parameter.wireSafe = true ∧ parameter.toWire = parameter := by
  obtain ⟨enough, built, log, settled⟩ :=
    build_settles fun node _ => (grounded_of_unhooked unhooked node).finishes
  have safe : built.clause.WireSafe :=
    build_wire_safe unhooked templated enough input free values negated (built, log)
      (settled enough (Nat.le_refl enough))
  refine ⟨enough, built, log, settled, fun value inside => ?_, fun earlier parameter inside => ?_⟩
  · exact ⟨safe value inside, value.to_wire_eq_self_iff.mpr (safe value inside)⟩
  · have own : parameter.wireSafe = true := safe.numbered earlier parameter inside
    exact ⟨own, parameter.to_wire_eq_self_iff.mpr own⟩

/-- The last day of a February. -/
def leapDay : Date := ⟨2024, 2, 29, by decide, by decide⟩

/-- A strict configuration with an alias, and with an operator that changes every value
to one that cannot be bound as it is. -/
def stampedConfig : Config :=
  let options : Options := { Options.default with strict := true }
  let overlaps : Operator :=
    (Operator.ofSymbol "&&").withChange fun value => .list [value, .null, .list [.bytes [104, 105]]]
  { Config.default.withOptions options with
    operators := (Registry.builtin.insert "since" (.ofAlias "gte")).insert "overlaps" overlaps }

/-- Its operators are built in or fill templates. That one of them changes its value makes no
difference. -/
theorem stamped_templated : stampedConfig.operators.Templated :=
  (Registry.templated_builtin.insert "since" rfl).insert "overlaps" rfl

/-- Mappings of null, dates, times and bytes. The second key from the end names no
operator. -/
def stampedInput : Input :=
  .list
    [.node (.and [.fields (.ofList [("day__since", .date leapDay),
        ("span__between", .list [.dateTime (.startOf leapDay), .null])])] false true),
      .list [.fields (.ofList [("kind", .list [.bytes [97], .list [.null]]),
        ("name__contains", .null)])],
      .fields (.ofList [("span__overlaps", .date leapDay), ("age__nope", .int 2), ("size", .null)])]

/-- Nulls, dates, times and bytes, some inside lists and one put there by an operator, are all
bound as texts, up to the key that is refused. -/
theorem stamped_mappings_bind_wire_values :
    stampedInput.rawFree = true ∧
      ∃ enough built log,
        (∀ depth, enough ≤ depth →
          build depth stampedConfig stampedInput [] false = some (built, log)) ∧
        (built.clause.numbered 0).sql =
          "(NOT ((\"day\" >= $1 AND \"span\" BETWEEN $2 AND $3)) OR " ++
            "((\"kind\" IN ($4, $5) AND \"name\" LIKE $6)) OR (\"span\" && $7))" ∧
        (built.clause.numbered 0).values.map Value.shown =
          ["Text(\"2024-02-29\")", "Text(\"2024-02-29\")", "Text(\"\")", "Text(\"a\")",
            "List([Text(\"\")])", "Text(\"%%\")",
            "List([Text(\"2024-02-29\"), Text(\"\"), List([Text(\"hi\")])])"] ∧
        built.issue = some (.invalid (.text "age__nope") (some [.int 2])) ∧
        (∀ value ∈ built.clause.values, value.wireSafe = true ∧ value.toWire = value) ∧
        ∀ earlier, ∀ parameter ∈ (built.clause.numbered earlier).values,
          parameter.wireSafe = true ∧ parameter.toWire = parameter := by
  obtain ⟨enough, built, log, settled, safe⟩ := mappings_bind_wire_values stampedConfig
    stamped_templated (fun _ => rfl) stampedInput rfl [] false
  have shallow := build_deeper stampedConfig 5 enough stampedInput [] false _ rfl
  rw [settled (5 + enough) (Nat.le_add_left _ _)] at shallow
  cases shallow
  exact ⟨rfl, enough, _, _, settled, by decide +kernel, by decide +kernel, rfl, safe⟩

end SqlCondition
