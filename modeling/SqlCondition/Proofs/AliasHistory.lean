import Mathlib.Data.List.Forall2
import SqlCondition.Proofs.Identifier

/-!
# Aliases and their history

Aliases are given one at a time or as whole tables, and a table is combined with what is there
in one of three ways. What a name stands for in the end is read off the calls. An overwriting
table leaves nothing of the calls before it. From the last such table on, what is written wins
over what was there, so the last call that writes the name decides. What is appended gives way,
so it counts only for a name that nothing wrote, and there the first call decides.

Every further call does to this closed form, name by name, what it does to the table in force.
The entries of a given table are only looked up, so the order in which they are taken has no
effect. What a name stands for is written as it is and not looked up again.
-/

namespace SqlCondition.Options

/-- A call that gives aliases. -/
inductive AliasCall
  | single (column target : String)
  | table (given : Table String) (mode : AliasMode)

namespace AliasCall

/-- The options after a call. -/
def perform (options : Options) : AliasCall → Options
  | .single column target => options.withAlias column target
  | .table given mode => options.setAliases given mode

/-- What a call gives for a name, when it mentions the name. -/
def gives? (name : String) : AliasCall → Option String
  | .single column target => if name = column then some target else none
  | .table given _ => given.get? name

/-- How a call is combined with those before it. A single alias is written. -/
def mode : AliasCall → AliasMode
  | .single _ _ => .write
  | .table _ mode => mode

/-- Whether a call leaves nothing of those before it. -/
def overwrites (call : AliasCall) : Bool :=
  match call.mode with
  | .overwrite => true
  | .append | .write => false

/-- Whether a call gives way to those before it. -/
def appends (call : AliasCall) : Bool :=
  match call.mode with
  | .append => true
  | .overwrite | .write => false

/-- Two calls are the same up to the order in which the entries of their tables stand. -/
inductive Reordered : AliasCall → AliasCall → Prop
  | single (column target : String) : Reordered (.single column target) (.single column target)
  | table {given other : Table String} (mode : AliasMode)
      (same : given.entries.Perm other.entries) : Reordered (.table given mode) (.table other mode)

/-- They give the same for every name, and in the same way. A lookup does not see the order of
the entries. -/
theorem Reordered.alike {call other : AliasCall} (same : call.Reordered other) (name : String) :
    call.gives? name = other.gives? name ∧ call.mode = other.mode := by
  cases same with
  | single column target => exact ⟨rfl, rfl⟩
  | table mode same => exact ⟨Table.get?_eq_of_perm same name, rfl⟩

end AliasCall

/-- The options after all calls. -/
def performAll (options : Options) (calls : List AliasCall) : Options :=
  calls.foldl AliasCall.perform options

/-- The options without aliases. -/
def withoutAliases (options : Options) : Options := { options with aliases := .empty }

/-- The calls that count: the last one that overwrites with all behind it, or every call when
none overwrites. -/
def standing : List AliasCall → List AliasCall
  | [] => []
  | call :: rest => if rest.any AliasCall.overwrites then standing rest else call :: rest

/-- What is given for a name by the last call that mentions it, appending calls apart. -/
def lastWritten (calls : List AliasCall) (name : String) : Option String :=
  (calls.filter fun call => !call.appends).reverse.findSome? (AliasCall.gives? name)

/-- What is given for a name by the first appending call that mentions it. -/
def firstAppended (calls : List AliasCall) (name : String) : Option String :=
  (calls.filter AliasCall.appends).findSome? (AliasCall.gives? name)

/-- What the calls leave for a name: among those that count, what was written last, or else
what was appended first. -/
def aliasLeft (calls : List AliasCall) (name : String) : Option String :=
  (lastWritten (standing calls) name).or (firstAppended (standing calls) name)

/-- What is left for a name when something, or nothing, is given for it. -/
def combineAlias (mode : AliasMode) (old given : Option String) : Option String :=
  match mode with
  | .overwrite => given
  | .append => old.or given
  | .write => given.or old

section Step

variable (calls : List AliasCall) (call : AliasCall) (name : String)

/-- A further call that overwrites counts alone, and any other one counts with those before. So
what counts is known from what counted and the last call. -/
theorem standing_concat :
    standing (calls ++ [call]) = if call.overwrites then [call] else standing calls ++ [call] := by
  induction calls with
  | nil => simp [standing]
  | cons first rest inductionHypothesis =>
    rw [List.cons_append, standing, standing, inductionHypothesis, List.any_append]
    cases latest : call.overwrites with
    | true => simp [latest]
    | false =>
      simp only [List.any_cons, latest, List.any_nil, Bool.or_false, Bool.false_eq_true, if_false]
      split <;> rfl

/-- What was written last is what a further call gives, unless the call appends or does not
mention the name. -/
theorem last_written_concat : lastWritten (calls ++ [call]) name =
    if call.appends then lastWritten calls name
    else (call.gives? name).or (lastWritten calls name) := by
  simp only [lastWritten, List.filter_append, List.reverse_append, List.findSome?_append]
  cases appends : call.appends <;> simp [appends]

/-- What was appended first stays so. What a further call appends counts where nothing was. -/
theorem first_appended_concat : firstAppended (calls ++ [call]) name =
    if call.appends then (firstAppended calls name).or (call.gives? name)
    else firstAppended calls name := by
  simp only [firstAppended, List.filter_append, List.findSome?_append]
  cases appends : call.appends <;> simp [appends]

/-- What is left for a name is combined with what a further call gives for it. -/
theorem alias_left_concat : aliasLeft (calls ++ [call]) name =
    combineAlias call.mode (aliasLeft calls name) (call.gives? name) := by
  rw [aliasLeft, aliasLeft, standing_concat, AliasCall.overwrites]
  cases mode : call.mode with
  | overwrite =>
    have written : call.appends = false := by rw [AliasCall.appends, mode]
    simp [lastWritten, firstAppended, written, combineAlias]
  | append =>
    have appended : call.appends = true := by rw [AliasCall.appends, mode]
    simp only [Bool.false_eq_true, if_false, last_written_concat, first_appended_concat, appended,
      if_true, combineAlias, Option.or_assoc]
  | write =>
    have written : call.appends = false := by rw [AliasCall.appends, mode]
    simp only [Bool.false_eq_true, if_false, last_written_concat, first_appended_concat, written,
      combineAlias, Option.or_assoc]

/-- So is the alias in force, in each of the three ways in which a call is combined with those
before. -/
theorem get?_perform (options : Options) : (call.perform options).aliases.get? name =
    combineAlias call.mode (options.aliases.get? name) (call.gives? name) := by
  cases call with
  | single column target =>
    rw [AliasCall.perform, withAlias, Table.get?_insert]
    simp only [AliasCall.mode, AliasCall.gives?, combineAlias]
    split <;> rfl
  | table given mode =>
    cases mode with
    | overwrite => rfl
    | append => exact Table.get?_union_new options.aliases given name
    | write => exact Table.get?_union options.aliases given name

end Step

/-- After all calls the alias in force is what they leave. The invariant goes from call to call. -/
theorem get?_perform_all (options : Options) (calls : List AliasCall) (name : String) :
    (options.withoutAliases.performAll calls).aliases.get? name = aliasLeft calls name := by
  -- The calls before any point have left what is in force there.
  have further (earlier : List AliasCall) (reached : Options)
      (left : reached.aliases.get? name = aliasLeft earlier name) :
      (reached.performAll calls).aliases.get? name = aliasLeft (earlier ++ calls) name := by
    induction calls generalizing earlier reached with
    | nil =>
      rw [List.append_nil]
      exact left
    | cons call rest inductionHypothesis =>
      have next : (call.perform reached).aliases.get? name = aliasLeft (earlier ++ [call]) name := by
        rw [get?_perform, left, alias_left_concat]
      have later := inductionHypothesis (earlier ++ [call]) (call.perform reached) next
      rwa [List.append_assoc] at later
  exact further [] options.withoutAliases rfl

/-- Calls with the entries of their tables in another order leave the same aliases in force, if
the same were in force before. -/
theorem get?_perform_all_reordered {one two : Options} {calls others : List AliasCall}
    (same : ∀ name, one.aliases.get? name = two.aliases.get? name)
    (each : List.Forall₂ AliasCall.Reordered calls others) (name : String) :
    (one.performAll calls).aliases.get? name = (two.performAll others).aliases.get? name := by
  induction each generalizing one two with
  | nil => exact same name
  | cons first _ inductionHypothesis =>
    refine inductionHypothesis fun asked => ?_
    obtain ⟨gives, mode⟩ := first.alike asked
    rw [get?_perform, get?_perform, same, gives, mode]

/-- Calls change nothing but the aliases: dialect, table and separator stay. -/
theorem without_aliases_perform_all (options : Options) (calls : List AliasCall) :
    (options.performAll calls).withoutAliases = options.withoutAliases := by
  induction calls generalizing options with
  | nil => rfl
  | cons call rest inductionHypothesis =>
    have own : (call.perform options).withoutAliases = options.withoutAliases := by
      cases call <;> rfl
    exact (inductionHypothesis (call.perform options)).trans own

/-- A column is written as what it stands for is written where there are no aliases. One name is
looked up, and what is found is not looked up again. -/
theorem column_without_aliases (options : Options) (name : String) : options.column name =
    options.withoutAliases.column ((options.aliases.get? name).getD name) := rfl

/-- What calls leave for a name: its alias, or the name itself when they leave none. -/
def standsFor (calls : List AliasCall) (name : String) : String := (aliasLeft calls name).getD name

/-- Whatever calls gave aliases, none being there before, a name stands for what the calls from
the last overwriting one on leave for it: what was written last, or else what was appended first,
or nothing. A column is written as what it stands for is written where there are no aliases: its
alias takes its place once, and no alias of an alias does. So the quoted name is read as the
segments of what the name stands for, behind those of the table, and as nothing else. The order
in which the entries of the given tables stand changes nothing.

The alias in force is followed call by call. The rest is about the column alone: the calls change
nothing of the options but the aliases, and a column looks up one name in them. -/
theorem column_after_calls (options : Options) (calls : List AliasCall) (name : String) :
    let own := (standsFor calls name).toList.takeWhile (· ≠ '\x00')
    (options.withoutAliases.performAll calls).aliases.get? name = aliasLeft calls name ∧
      (options.withoutAliases.performAll calls).column name =
        options.withoutAliases.column (standsFor calls name) ∧
      (∀ segments, Identifier options.dialect.quoteMark
          ((options.withoutAliases.performAll calls).column name).toList segments ↔
        segments = options.qualifier own ++ own.splitOn '.') ∧
      ∀ others, List.Forall₂ AliasCall.Reordered calls others →
        (options.withoutAliases.performAll others).column name =
          (options.withoutAliases.performAll calls).column name := by
  intro own
  have left := get?_perform_all options calls name
  have written (calls : List AliasCall) : (options.withoutAliases.performAll calls).column name =
      options.withoutAliases.column
        (((options.withoutAliases.performAll calls).aliases.get? name).getD name) := by
    rw [column_without_aliases, without_aliases_perform_all]
    rfl
  have once : (options.withoutAliases.performAll calls).column name =
      options.withoutAliases.column (standsFor calls name) := by
    rw [written, left]
    rfl
  refine ⟨left, once, fun segments => ?_, fun others each => ?_⟩
  · -- Without aliases the name under which a column is written is the name itself.
    have read := options.withoutAliases.identifier_of_column (standsFor calls name)
    rw [once]
    exact read.read_iff options.dialect.quote_mark_ne_dot segments
  · have same : (options.withoutAliases.performAll calls).aliases.get? name =
        (options.withoutAliases.performAll others).aliases.get? name :=
      get?_perform_all_reordered (fun _ => rfl) each name
    rw [written, written, same]

/-- The last table gives way to the one before it, and an alias of an alias is not followed. -/
example :
    let calls : List AliasCall := [.single "a" "old", .table (.ofList [("b", "x.c")]) .overwrite,
      .table (.ofList [("a", "b"), ("b", "d")]) .append, .table (.ofList [("a", "e")]) .append]
    aliasLeft calls "a" = some "b" ∧ (default.performAll calls).column "a" = "\"b\"" ∧
      (default.performAll calls).column "b" = "\"x\".\"c\"" := by decide

end SqlCondition.Options
