import SqlCondition.Proofs.Form
import SqlCondition.Proofs.Origin

/-!
# Built clauses are well formed

A clause is well formed when no quote is left open in it, its parentheses match, and
it has a placeholder for every value. Groups and joins of well-formed clauses are
well formed, raw SQL is in its parentheses once it is accepted, and a comparison by a
built-in operator always is. So is everything that is built with the built-in
operators, whatever columns are called and however the reduction ends.
-/

namespace SqlCondition

open Placeholder

namespace Clause

/-- A scan passes over the clause without effect but for a placeholder for every
value. -/
def Neutral (clause : Clause) : Prop :=
  Placeholder.Neutral clause.sql.toList clause.values.length

/-- Nothing is neutral: it opens nothing, closes nothing and binds nothing. -/
theorem neutral_empty : Neutral .empty := ⟨rfl, rfl, rfl⟩

/-- Two neutral clauses with a connective between them are a neutral clause. -/
theorem Neutral.both (connective : Connective) (front back : Clause) (first : front.Neutral)
    (second : back.Neutral) : (front ++ ofText connective.separator ++ back).Neutral := by
  have between : Placeholder.Neutral connective.separator.toList 0 := by
    cases connective <;> exact ⟨by decide, by decide, by decide⟩
  have whole := (first.append between).append second
  unfold Neutral
  simpa only [append_sql, append_values, of_text_sql, of_text_values, String.toList_append,
    List.length_append, List.length_nil, Nat.add_zero] using whole

/-- A neutral clause in parentheses is neutral, with a NOT in front or without. -/
theorem Neutral.enclosed (negated : Bool) (clause : Clause) (inside : clause.Neutral) :
    (ofText (opening negated) ++ clause ++ ofText ")").Neutral := by
  have opens : quoteAfter none (opening negated).toList = none ∧
      nestFrom none 0 (opening negated).toList = some 1 ∧
      countFrom none (opening negated).toList = 0 := by
    cases negated <;> decide
  have whole := inside.between (opening negated).toList ")".toList opens.1 opens.2.1 opens.2.2
    (by decide) (by decide) (by decide : countFrom none ")".toList = 0)
  unfold Neutral
  simpa only [append_sql, append_values, of_text_sql, of_text_values, String.toList_append,
    List.length_append, List.length_nil, Nat.add_zero, Nat.zero_add] using whole

/-- A neutral clause as a group is neutral, whether it says anything or not. -/
theorem Neutral.grouped (negated : Bool) (clause : Clause) (inside : clause.Neutral) :
    (clause.grouped negated).Neutral := by
  cases live : clause.isEmpty with
  | true => exact (grouped_empty negated clause live).symm ▸ inside
  | false => exact (grouped_live negated clause live).symm ▸ Neutral.enclosed negated clause inside

/-- What a built-in operator writes about a column is neutral: fixed texts that match, around a
column that opens and closes nothing. -/
theorem Formed.neutral {column : String} {clause : Clause} (formed : clause.Formed column)
    (quoted : Placeholder.Neutral column.toList 0) : clause.Neutral := by
  rcases formed with rfl | ⟨form, listed, written, bound⟩
  · exact neutral_empty
  · unfold Neutral
    rw [written, bound]
    exact (Form.builtin_fits form listed).neutral quoted

end Clause

/-- Where the built-in operators are registered and raw SQL leaves nothing open, every leaf is
neutral, whether it is raw SQL or a comparison. -/
theorem Origin.neutral {config : Config} {node : Node} {leaf : Clause}
    (registry : config.operators = .builtin)
    (texts : ∀ sql, RawText config node sql → Closed sql ∧ Balanced sql)
    (origin : Origin config node leaf) : leaf.Neutral := by
  cases origin with
  | silent => exact Clause.neutral_empty
  | @raw sql values negated reached fits =>
    obtain ⟨closed, balanced⟩ := texts sql ⟨values, negated, reached⟩
    exact Clause.Neutral.grouped negated ⟨sql, values⟩ ⟨closed, balanced, fits⟩
  | comparison column value selected =>
    have builtin := Registry.select_builtin _ _ _ (registry ▸ selected)
    exact (Operator.build_formed _ builtin _ value _).neutral (config.neutral_column column)

/-- The clause of a reduction is neutral, complete or up to an issue, being put together from
leaves that are. -/
theorem reduce_neutral (config : Config) (registry : config.operators = .builtin) (depth : Nat)
    (node : Node) (texts : ∀ sql, RawText config node sql → Closed sql ∧ Balanced sql)
    (outcome : Outcome) (finished : reduce config depth node = some outcome) :
    outcome.fragment.clause.Neutral := by
  apply reduce_clause_induction Clause.neutral_empty Clause.Neutral.both Clause.Neutral.enclosed
    config depth node _ outcome finished
  intro leaf origin
  exact origin.neutral registry texts

/-- Whatever is built with the built-in operators from raw SQL that leaves no quote and no
parenthesis open leaves none open either, and has a placeholder for every value. This holds with
or without an issue: what was built up to it is as well formed as a complete clause. Only the
raw SQL that the input and its hooks come to matters; keys, aliases and tables are free.

Every leaf is neutral, a comparison because its column is quoted and its fixed texts match, raw
SQL by assumption. Connectives and parentheses keep that, at any depth. -/
theorem build_well_formed (depth : Nat) (config : Config) (input : Input) (values : List Value)
    (negated : Bool) (built : Built) (events : List Event) (registry : config.operators = .builtin)
    (texts : ∀ node sql, Node.ofInput input values negated = .ok node → RawText config node sql →
      Closed sql ∧ Balanced sql)
    (finished : build depth config input values negated = some (built, events)) :
    Closed built.clause.sql ∧ Balanced built.clause.sql ∧
      Placeholder.count built.clause.sql = built.clause.values.length := by
  have neutral : built.clause.Neutral := by
    unfold build at finished
    cases taken : Node.ofInput input values negated with
    | ok node =>
      simp only [taken] at finished
      obtain ⟨outcome, reduced, same⟩ := Option.map_eq_some_iff.mp finished
      have clause : outcome.fragment.clause = built.clause :=
        congrArg (fun result => result.1.clause) same
      exact clause ▸ reduce_neutral config registry depth node
        (fun sql => texts node sql taken) outcome reduced
    | error issue =>
      simp only [taken, Option.some.injEq] at finished
      have clause : (Outcome.refused config.toOptions issue).fragment.clause = built.clause :=
        congrArg (fun result => result.1.clause) finished
      rw [← clause, Reduction.refused_fragment]
      exact Clause.neutral_empty
  exact ⟨neutral.closed, neutral.balanced, neutral.counted⟩

/-- A strict configuration with a hook that returns raw SQL for the key `recent`. -/
def recentConfig : Config :=
  let options : Options := { Options.default with strict := true, table := some "t?" }
  (Config.default.withOptions options).withHook "recent" fun _ operand _ =>
    some (Input.raw "seen > ? AND kind <> '?)'" [operand])

/-- A list whose last key names no operator, after a hook and a column with marks,
quotes and parentheses in its name. -/
def recentInput : Input :=
  .list [.fields (.ofList [("a\"?(.b__between", .list [.int 1, .int 2]), ("recent", .int 3)]),
    .node (.and [.fields (.ofList [("c", .null)])] true true),
    .fields (.ofList [("d__nope", .null)])]

/-- The only raw SQL of the list is what the hook returns. The other parts are mappings, and
their keys have no hook. -/
theorem recent_texts (node : Node) (sql : String)
    (taken : Node.ofInput recentInput [] true = .ok node)
    (text : RawText recentConfig node sql) : sql = "seen > ? AND kind <> '?)'" := by
  have unhooked (key : String) (absent : recentConfig.hooks.get? key = none) (operand : Value) :
      ¬ RawText recentConfig (.map (.ofList [(key, operand)]) false) sql := by
    intro text
    obtain ⟨entry, member, hook, registered, _⟩ := (RawText.map_iff _ _ _ _).mp text
    rw [List.mem_singleton.mp member, absent] at registered
    cases registered
  cases taken
  obtain ⟨item, member, child, taken, text⟩ := (RawText.or_iff _ _ _ _).mp text
  simp only [List.mem_cons, List.not_mem_nil, or_false] at member
  rcases member with rfl | rfl | rfl <;> cases taken
  · obtain ⟨entry, member, hook, registered, item, returned, child, taken, text⟩ :=
      (RawText.map_iff _ _ _ _).mp text
    rcases List.mem_cons.mp member with rfl | last
    · cases registered
    · cases List.mem_singleton.mp last
      cases registered
      cases returned
      cases taken
      exact (RawText.raw_iff _ _ _ _ _).mp text
  · obtain ⟨item, member, child, taken, text⟩ := (RawText.and_iff _ _ _ _ _).mp text
    cases List.mem_singleton.mp member
    cases taken
    exact absurd text (unhooked "c" rfl .null)
  · exact absurd text (unhooked "d__nope" rfl .null)

/-- A strict list with marks, quotes and parentheses in its names, and a hook among them, is
well formed up to the key that is refused. -/
theorem hooked_list_well_formed :
    ∃ built events, build 5 recentConfig recentInput [] true = some (built, events) ∧
      built.clause.sql = "NOT ((\"a\"\"?(\".\"b\" BETWEEN ? AND ? AND " ++
        "(seen > ? AND kind <> '?)')) OR NOT ((\"t?\".\"c\" IS NULL)))" ∧
      Closed built.clause.sql ∧ Balanced built.clause.sql ∧
        Placeholder.count built.clause.sql = built.clause.values.length := by
  refine ⟨_, _, rfl, rfl, build_well_formed 5 recentConfig recentInput [] true _ _ rfl ?_ rfl⟩
  intro node sql taken text
  rw [recent_texts node sql taken text]
  decide

end SqlCondition
