import SqlCondition.Proofs.Numbering
import SqlCondition.Proofs.WellFormed

/-!
# Which placeholders lists spread over

Numbering gives a list one parameter for each member when its placeholder stands directly
between parentheses, and one parameter for all of it elsewhere. It asks the text and not the
operator. Of the built-in operators membership is meant to be spread, and most others write
no placeholder between parentheses or bind nothing that is a list. They are numbered with
one parameter for each placeholder, whatever the column and the value are.

Equality in lower case is the exception. It hands its value to a function as it is, so that
the function gets one argument for each member of a list.
-/

namespace SqlCondition

namespace Placeholder

/-- No placeholder stands directly between parentheses, given the quote that is open at the
front and the character before it. -/
def exposed : Option Char → Option Char → List Char → Bool
  | _, _, [] => true
  | quote, previous, character :: rest =>
      !(isMark quote character && (previous = some '(' && rest.head? = some ')')) &&
        exposed (step quote character) (some character) rest

/-- A text without placeholders begins with a character that is none, and has none behind it. -/
theorem unmarked_cons {quote : Option Char} {character : Char} {rest : List Char}
    (unmarked : countFrom quote (character :: rest) = 0) :
    isMark quote character = false ∧ countFrom (step quote character) rest = 0 := by
  cases marked : isMark quote character with
  | false => exact ⟨rfl, by simpa [countFrom, marked] using unmarked⟩
  | true => simp [countFrom, marked] at unmarked

/-- A text in front without placeholders exposes none, whatever it has in its quotes. Only its
last character and the quote that it leaves open matter behind it. -/
theorem exposed_behind_unmarked (quote previous : Option Char) (front rest : List Char)
    (unmarked : countFrom quote front = 0)
    (shown : exposed (quoteAfter quote front) (front.getLast?.or previous) rest = true) :
    exposed quote previous (front ++ rest) = true := by
  induction front generalizing quote previous with
  | nil => exact shown
  | cons character front inductionHypothesis =>
    obtain ⟨plain, later⟩ := unmarked_cons unmarked
    rw [last_of_cons] at shown
    simp only [List.cons_append, exposed, plain, Bool.false_and, Bool.not_false, Bool.true_and]
    exact inductionHypothesis (step quote character) (some character) later shown

/-- Numbering leaves such a text as it is, and uses the values behind it. Parameters are counted
on from the same number. -/
theorem number_from_behind_unmarked (quote previous : Option Char) (earlier : Nat)
    (values : List Value) (front rest : List Char) (unmarked : countFrom quote front = 0) :
    let later := numberFrom (quoteAfter quote front) (front.getLast?.or previous) earlier values rest
    numberFrom quote previous earlier values (front ++ rest) = (front ++ later.1, later.2) := by
  induction front generalizing quote previous with
  | nil => rfl
  | cons character front inductionHypothesis =>
    obtain ⟨plain, later⟩ := unmarked_cons unmarked
    have behind := inductionHypothesis (step quote character) (some character) later
    rw [last_of_cons]
    simp only [List.cons_append, numberFrom, plain, Bool.false_eq_true, if_false, behind]
    rfl

/-- The names of consecutive parameters begin with the first and go on with those after it. -/
theorem names_succ (earlier amount : Nat) :
    names earlier (amount + 1) =
      String.ofList ('$' :: Text.decimal (earlier + 1)) :: names (earlier + 1) amount := by
  rw [names, List.range'_succ, List.map_cons]
  rfl

/-- One parameter is rendered as its name, without a comma before or behind it. -/
theorem rendering_one (earlier : Nat) :
    (rendering earlier 1).toList = '$' :: Text.decimal (earlier + 1) := by
  rw [rendering_eq_spelled, names_succ]
  exact String.toList_ofList

/-- A value is one parameter unless it is a list between parentheses. A list elsewhere is bound
as a whole. -/
theorem parameters_whole {value : Value} {parenthesized : Bool}
    (whole : parenthesized = false ∨ value.isList = false) :
    parameters parenthesized value = [value] := by
  cases value with
  | list items =>
    rcases whole with rfl | plain
    · rfl
    · cases plain
  | _ => rfl

/-- Where no placeholder stands between parentheses, or no value is a list, each placeholder
is replaced by the next name, and the parameters are the values. -/
theorem number_from_one_for_one (quote previous : Option Char) (earlier : Nat)
    (values : List Value) (text : List Char) (counted : countFrom quote text = values.length)
    (whole : exposed quote previous text = true ∨ ∀ value ∈ values, value.isList = false) :
    numberFrom quote previous earlier values text =
      (refill quote ((names earlier values.length).map String.toList) text, values) := by
  induction text generalizing quote previous earlier values with
  | nil =>
    have noValues : values = [] := List.length_eq_zero_iff.mp counted.symm
    subst noValues
    rfl
  | cons character rest inductionHypothesis =>
    cases marked : isMark quote character with
    | false =>
      have countedLater : countFrom (step quote character) rest = values.length := by
        simpa [countFrom, marked] using counted
      have wholeLater : exposed (step quote character) (some character) rest = true ∨
          ∀ value ∈ values, value.isList = false :=
        whole.imp_left fun shown => by simpa [exposed, marked] using shown
      have later := inductionHypothesis _ (some character) earlier values countedLater wholeLater
      simp only [numberFrom, refill, marked, Bool.false_eq_true, if_false, later]
    | true =>
      obtain ⟨rfl, closed⟩ := step_mark marked
      cases values with
      | nil => simp [countFrom, marked] at counted
      | cons value others =>
        have countedLater : countFrom none rest = others.length := by
          simp only [countFrom, marked, if_true, closed, List.length_cons] at counted
          omega
        have wholeLater : exposed none (some character) rest = true ∨
            ∀ value ∈ others, value.isList = false := by
          refine whole.imp (fun shown => ?_) fun plain other inside =>
            plain other (List.mem_cons_of_mem value inside)
          rw [exposed, closed, Bool.and_eq_true] at shown
          exact shown.2
        have single : parameters (previous = some '(' && rest.head? = some ')') value =
            [value] := by
          refine parameters_whole (whole.imp (fun shown => ?_) fun plain =>
            plain value List.mem_cons_self)
          rw [exposed, marked, Bool.true_and, Bool.and_eq_true, Bool.not_eq_true'] at shown
          exact shown.1
        have later := inductionHypothesis none (some character) (earlier + 1) others countedLater
          wholeLater
        simp only [numberFrom, refill, marked, if_true, single, List.length_cons, List.length_nil,
          Nat.zero_add, names_succ, List.map_cons, String.toList_ofList, rendering_one, later,
          List.singleton_append]

end Placeholder

open Placeholder

namespace Clause

/-- Every placeholder of the clause is numbered with one name, and its parameter is the
value of the placeholder. -/
structure OneForOne (clause : Clause) (earlier : Nat) : Prop where
  counted : Placeholder.count clause.sql = clause.values.length
  written : (clause.numbered earlier).sql.toList =
    refill none ((names earlier clause.values.length).map String.toList) clause.sql.toList
  bound : (clause.numbered earlier).values = clause.values

/-- So it is in a clause with a value for every placeholder, when no placeholder stands
between parentheses or no value is a list. -/
theorem one_for_one {clause : Clause}
    (counted : Placeholder.count clause.sql = clause.values.length)
    (whole : exposed none none clause.sql.toList = true ∨
      ∀ value ∈ clause.values, value.isList = false) (earlier : Nat) :
    clause.OneForOne earlier := by
  have run := number_from_one_for_one none none earlier clause.values clause.sql.toList counted whole
  refine ⟨counted, ?_, ?_⟩
  · simp only [numbered, number, run, String.toList_ofList]
  · simp only [numbered, number, run]

/-- A list spreads over its placeholder when that stands directly between parentheses, with one
name for each member and the members as parameters. -/
theorem numbered_spread {front : String} (closed : Closed front)
    (unmarked : Placeholder.count front = 0) (items : List Value) (earlier : Nat) :
    (⟨front ++ "(?)", [.list items]⟩ : Clause).numbered earlier =
      ⟨front ++ "(" ++ rendering earlier items.length ++ ")", items⟩ := by
  have enclosed (previous : Option Char) :
      numberFrom none previous earlier [.list items] "(?)".toList =
        ('(' :: (rendering earlier items.length).toList ++ [')'], items) := by
    simp [numberFrom, isMark, step, isQuote, parameters]
  have run := number_from_behind_unmarked none none earlier [.list items] front.toList "(?)".toList
    unmarked
  rw [closed, enclosed, ← String.toList_append] at run
  rw [numbered, number, run]
  congr 1
  apply String.toList_inj.mp
  simp

end Clause

namespace Registry

open Operator

/-- The operators that hand their value, as it is, to a function of one argument. -/
def lowered : List String := ["iexact", "inotexact"]

variable {name : String} {operator : Operator}

/-- Their template and their symbol. Neither has a builder or changes the value, which so comes
to the function as it is. -/
theorem lowered_template (listed : (name, operator) ∈ builtinOperators) (named : name ∈ lowered) :
    operator.builder = none ∧ operator.change = none ∧ operator.template = some lowerTemplate ∧
      operator.symbol.getD defaultSymbol ∈ ["=", "<>", "LIKE"] := by
  have each : ∀ entry ∈ builtinOperators, entry.1 ∈ lowered →
      entry.2.builder.isNone = true ∧ entry.2.change.isNone = true ∧
        entry.2.template = some lowerTemplate ∧
          entry.2.symbol.getD defaultSymbol ∈ ["=", "<>", "LIKE"] := by decide
  simpa only [Option.isNone_iff_eq_none] using each (name, operator) listed named

/-- Any other operator that fills a template with the value as it is fills the usual one. -/
theorem usual_template (listed : (name, operator) ∈ builtinOperators) (named : name ∉ lowered)
    (fills : operator.builder = none) (keeps : operator.change = none) :
    operator.template = none ∧ operator.symbol.getD defaultSymbol ∈
      ["=", "<>", ">", "<", ">=", "<=", "LIKE"] := by
  have each : ∀ entry ∈ builtinOperators, entry.1 ∉ lowered → entry.2.builder.isNone = true →
      entry.2.change.isNone = true → entry.2.template = none ∧
        entry.2.symbol.getD defaultSymbol ∈ ["=", "<>", ">", "<", ">=", "<=", "LIKE"] := by decide
  exact each (name, operator) listed named (by rw [fills]; rfl) (by rw [keeps]; rfl)

/-- Only membership changes a value into something other than a text. So any other changed value
is bound as one parameter wherever its placeholder stands. -/
theorem changed_into_text (listed : (name, operator) ∈ builtinOperators) (other : name ≠ "in")
    {change : Value → Value} (changes : operator.change = some change) (value : Value) :
    ∃ content, change value = .text content := by
  have each : ∀ entry ∈ builtinOperators, entry.1 ≠ "in" →
      ∀ change ∈ entry.2.change, ∃ content, change value = .text content := by
    simp [builtinOperators, plain, ofSymbol, like, onDate, withTemplate, withChange, ofBuilder]
  exact each (name, operator) listed other change changes

end Registry

namespace Operator

/-- Behind the name of a column a text is exposed when it is so by itself. The name may have
question marks and parentheses, but in its quotes. -/
theorem exposed_behind_column (options : Options) (column : String) (back : List Char)
    (shown : ∀ previous, exposed none previous back = true) :
    exposed none none ((options.column column).toList ++ back) = true := by
  have quoted := options.neutral_column column
  apply exposed_behind_unmarked none none _ back quoted.counted
  rw [quoted.closed]
  exact shown _

/-- The usual template writes its placeholder behind a space, so that it is never directly
between parentheses. -/
theorem exposed_default (symbol : String)
    (known : symbol ∈ ["=", "<>", ">", "<", ">=", "<=", "LIKE"]) (options : Options)
    (column : String) :
    exposed none none (fill defaultTemplate symbol (options.column column)).toList = true := by
  have shown (previous : Option Char) :
      exposed none previous (" " ++ symbol ++ " ?").toList = true := by
    simp only [List.mem_cons, List.not_mem_nil, or_false] at known
    rcases known with rfl | rfl | rfl | rfl | rfl | rfl | rfl <;> rfl
  rw [fill_default symbol known, Form.to_list_write]
  exact exposed_behind_column options column _ shown

variable {name : String} {operator : Operator}

/-- A value becomes no list by being bound, and a list stays one. -/
theorem is_list_to_wire (value : Value) : value.toWire.isList = value.isList := by
  cases value <;> rfl

/-- A built-in operator other than membership exposes its placeholders or binds no list,
unless it hands a list to a function. -/
theorem whole_of_builtin (listed : (name, operator) ∈ Registry.builtinOperators)
    (other : name ≠ "in") (column : String) (value : Value) (options : Options)
    (single : name ∈ Registry.lowered → value.isList = false) :
    let clause := operator.build (options.column column) value options
    exposed none none clause.sql.toList = true ∨ ∀ bound ∈ clause.values, bound.isList = false := by
  rcases IsBuiltin.template_or_builder ⟨name, listed⟩ with fills | rfl | rfl | rfl
  · simp only [build, fills, List.mem_singleton, forall_eq, bound, is_list_to_wire]
    cases changes : operator.change with
    | some change =>
      obtain ⟨content, same⟩ := Registry.changed_into_text listed other changes value
      right
      rw [Option.getD_some, same]
      rfl
    | none =>
      by_cases spread : value.isList = true
      · have named : name ∉ Registry.lowered := fun named => by
          rw [single named] at spread
          cases spread
        obtain ⟨template, known⟩ := Registry.usual_template listed named fills changes
        left
        rw [template]
        exact exposed_default _ known options column
      · right
        exact Bool.eq_false_iff.mpr spread
  · simp only [build, ofBuilder, between]
    cases ends value with
    | none => exact Or.inl rfl
    | some pair =>
      left
      rw [String.toList_append]
      exact exposed_behind_column options column _ fun _ => rfl
  · simp only [build, ofBuilder, betweenDates]
    cases ends value with
    | none => exact Or.inl rfl
    | some pair =>
      right
      simp [Value.isList]
  · right
    simp [build, ofBuilder, nullTest]

/-- The template that ignores case has its placeholder between parentheses, behind a text that
has none. -/
theorem fill_lower_behind (symbol : String) (known : symbol ∈ ["=", "<>", "LIKE"])
    (options : Options) (column : String) :
    let front := "LOWER(" ++ options.column column ++ (") " ++ symbol ++ " LOWER")
    Closed front ∧ Placeholder.count front = 0 ∧
      fill lowerTemplate symbol (options.column column) = front ++ "(?)" := by
  intro front
  have quoted := options.neutral_column column
  have opened : quoteAfter none "LOWER(".toList = none ∧ countFrom none "LOWER(".toList = 0 := by
    decide
  have passed : ∀ symbol ∈ ["=", "<>", "LIKE"],
      quoteAfter none (") " ++ symbol ++ " LOWER").toList = none ∧
        countFrom none (") " ++ symbol ++ " LOWER").toList = 0 := by decide
  obtain ⟨closed, unmarked⟩ := passed symbol known
  refine ⟨?_, ?_, ?_⟩
  · rw [Closed, String.toList_append, String.toList_append, quote_after_append, quote_after_append,
      opened.1, quoted.closed, closed]
  · rw [Placeholder.count, String.toList_append, String.toList_append, count_append, count_append,
      quote_after_append, opened.1, quoted.closed, opened.2, quoted.counted, unmarked]
  · rw [fill_lower symbol known]
    apply String.toList_inj.mp
    simp [Form.write, front]

/-- An operator that hands its value to a function hands it one argument for each member of
a list. -/
theorem numbered_lowered (listed : (name, operator) ∈ Registry.builtinOperators)
    (named : name ∈ Registry.lowered) (column : String) (items : List Value) (options : Options)
    (earlier : Nat) :
    (operator.build (options.column column) (.list items) options).numbered earlier =
      ⟨"LOWER(" ++ options.column column ++ (") " ++ operator.symbol.getD defaultSymbol ++
          " LOWER") ++ "(" ++ rendering earlier items.length ++ ")", items.map Value.toWire⟩ := by
  obtain ⟨fills, keeps, template, known⟩ := Registry.lowered_template listed named
  obtain ⟨closed, unmarked, text⟩ := fill_lower_behind _ known options column
  have wire : operator.bound (.list items) = .list (items.map Value.toWire) := by
    rw [bound, keeps, ← Value.wires_eq_map]
    rfl
  have built : operator.build (options.column column) (.list items) options =
      ⟨"LOWER(" ++ options.column column ++ (") " ++ operator.symbol.getD defaultSymbol ++
        " LOWER") ++ "(?)", [.list (items.map Value.toWire)]⟩ := by
    simp only [build, fills, template, Option.getD_some, wire, text]
  rw [built, Clause.numbered_spread closed unmarked, List.length_map]

end Operator

/-- The clause of a comparison by a built-in operator other than membership is numbered with one
name for each placeholder and binds each value as one parameter, whatever the column and the
value are, and whether the operator is named by the key or inferred. Equality in lower case and
its opposite do so for every value but a list. A list they spread over the arguments of the
function that makes it lower case, one for each member.

The first half asks of each built-in operator that it writes no placeholder between parentheses
or binds no list. Behind the column that is a matter of fixed texts. The second half is the one
template that has its placeholder there. -/
theorem comparison_numbered_one_for_one (config : Config) (key : String) (value : Value)
    (name : String) (operator : Operator)
    (selected : (config.operators.select (config.splitKey key).2 value).1 = some operator)
    (listed : (name, operator) ∈ Registry.builtinOperators) (other : name ≠ "in")
    (earlier : Nat) :
    let clause := (Reduction.ofComparison config key value).fragment.clause
    let column := config.column (config.splitKey key).1
    ((name ∈ Registry.lowered → value.isList = false) → clause.OneForOne earlier) ∧
      ∀ items, name ∈ Registry.lowered → value = .list items →
        clause.numbered earlier =
          ⟨"LOWER(" ++ column ++ (") " ++ operator.symbol.getD Operator.defaultSymbol ++ " LOWER") ++
            "(" ++ rendering earlier items.length ++ ")", items.map Value.toWire⟩ := by
  intro clause column
  have built : clause = operator.build column value config.toOptions := by
    simp only [clause, Reduction.ofComparison, selected]
    rfl
  rw [built]
  constructor
  · intro single
    have formed := operator.build_formed ⟨name, listed⟩ column value config.toOptions
    exact Clause.one_for_one (formed.neutral (config.neutral_column _)).counted
      (Operator.whole_of_builtin listed other _ value config.toOptions single) earlier
  · rintro items named rfl
    exact Operator.numbered_lowered listed named _ items config.toOptions earlier

/-- A column whose name has a question mark between parentheses, compared with a list by order.
The list is bound whole, and the name of the column stays as it is. -/
theorem ordered_list_numbered_one_for_one :
    ((Config.default.operators.select (Config.default.splitKey "a(?)b__lt").2
        (.list [.int 1, .null])).1 = some (.ofSymbol "<") ∧
      ("lt", Operator.ofSymbol "<") ∈ Registry.builtinOperators ∧ "lt" ≠ "in" ∧
      "lt" ∉ Registry.lowered) ∧
      let clause := (Reduction.ofComparison Config.default "a(?)b__lt"
        (.list [.int 1, .null])).fragment.clause
      clause.OneForOne 7 ∧
        clause.numbered 7 = ⟨"\"a(?)b\" < $8", [.list [.int 1, .text ""]]⟩ := by
  have listed : ("lt", Operator.ofSymbol "<") ∈ Registry.builtinOperators := by
    simp [Registry.builtinOperators]
  have named : "lt" ∉ Registry.lowered := by decide
  have numbered := (comparison_numbered_one_for_one Config.default "a(?)b__lt"
    (.list [.int 1, .null]) "lt" (.ofSymbol "<") rfl listed (by decide) 7).1 (absurd · named)
  exact ⟨⟨rfl, listed, by decide, named⟩, numbered, rfl⟩

/-- Equality in lower case calls a function of one argument with two when it compares with a
list of two texts, and with none that is bound when the list is empty. -/
theorem lowered_list_spreads :
    let equality := Operator.plain.withTemplate Operator.lowerTemplate
    let compared (items : List Value) : Clause :=
      (Reduction.ofComparison Config.default "name__iexact" (.list items)).fragment.clause
    (∀ items, (Config.default.operators.select (Config.default.splitKey "name__iexact").2
        (.list items)).1 = some equality) ∧
      ("iexact", equality) ∈ Registry.builtinOperators ∧ "iexact" ≠ "in" ∧
      compared [.text "Go", .text "Rust"] =
        ⟨"LOWER(\"name\") = LOWER(?)", [.list [.text "Go", .text "Rust"]]⟩ ∧
      (compared [.text "Go", .text "Rust"]).numbered 0 =
        ⟨"LOWER(\"name\") = LOWER($1, $2)", [.text "Go", .text "Rust"]⟩ ∧
      (compared []).numbered 0 = ⟨"LOWER(\"name\") = LOWER(NULL)", []⟩ ∧
      ¬ (compared [.text "Go", .text "Rust"]).OneForOne 0 := by
  refine ⟨fun _ => rfl, ?_, by decide, rfl, rfl, rfl, ?_⟩
  · simp [Registry.builtinOperators]
  · intro single
    have amounts := congrArg List.length single.bound
    exact absurd amounts (by decide)

end SqlCondition
