import SqlCondition.Proofs.Comparison

/-!
# What mappings are read as

A mapping stands in parentheses, but the comparisons in it do not: they are written with
AND between them and nothing else. So a mapping is read as the alternatives of its pairs
beside AND. It is the conjunction of its pairs as long as every comparison is a single
alternative. Built-in operators write nothing else, and what hooks return is a single
alternative in any case; an operator with OR in its template has to bring parentheses.
-/

namespace SqlCondition

open Expression Alternatives

namespace Reduction

/-- The comparisons of a mapping by operators that are not built in are single alternatives. -/
def ComparesSingly (config : Config) (fields : Table Value) : Prop :=
  ∀ key value operator, (key, value) ∈ fields.entries → config.hooks.get? key = none →
    (config.operators.select (config.splitKey key).2 value).1 = some operator →
    ¬ operator.IsBuiltin →
    (operator.build (config.column (config.splitKey key).1) value config.toOptions).Undivided

/-- Then so are all parts of the mapping, since what built-in operators write and what hooks
return is kept together. -/
theorem Part.undivided {config : Config} {fields : Table Value} {negated : Bool}
    {fragment : Fragment}
    (part : Part config (fun _ => KeptTogether) (.map fields negated) fragment)
    (comparisons : ComparesSingly config fields) (leaves : ∀ leaf ∈ fragment.leaves, leaf.Legible) :
    fragment.clause.Undivided := by
  cases part with
  | silent => exact .inl rfl
  | below placed kept => exact kept leaves
  | @comparison _ _ key value operator member unhooked selected =>
    by_cases builtin : operator.IsBuiltin
    · exact builtin.undivided config.toOptions _ value
    · exact comparisons key value operator member unhooked selected builtin

/-- A group of clauses with AND between them has the truth of their readings put beside each
other, or the opposite when it is negated. -/
theorem truth_conjunction (negated : Bool) {parts : List Fragment} {readings : List Alternatives}
    (reads : Clause.ReadsEach (parts.map Fragment.clause) readings) (spoken : readings ≠ [])
    (assignment : Clause → Bool) :
    (conjunction false negated parts).clause.truth assignment =
      some (negated ^^ holds assignment (readings.foldr (combine .and) [])) := by
  have live :
      (Clause.join Connective.and.separator (parts.map Fragment.clause)).isEmpty = false := by
    rw [Clause.join_is_empty, reads.all_is_empty]
    simpa using spoken
  obtain ⟨operand, enclosed, same⟩ := (reads.join .and spoken).grouped negated live
  have written : (conjunction false negated parts).clause =
      (Clause.join Connective.and.separator (parts.map Fragment.clause)).grouped negated := by
    rw [conjunction, if_neg (by simp), Fragment.clause, Fragment.clause, Fragment.clauses_eq_map]
  rw [written, enclosed.truth assignment, ← same]
  simp [holds]

end Reduction

/-- The clause of a mapping is read as the alternatives of its pairs with AND between them, and
as the opposite of these when negated, provided that what is written at the leaves can be read.
It is the conjunction of its pairs, each read on its own, when the operators that are not built
in write single alternatives; what built-in operators write and what hooks return needs no such
proviso.

A pair is put beside the others without parentheses. With single alternatives that is the
conjunction; with several, the last of one pair and the first of the next are joined. -/
theorem mapping_read_beside (config : Config) (depth : Nat) (fields : Table Value)
    (negated : Bool) (gathered : Gathered)
    (reached : Gathered.ofParts (Reduction.ofPair (reduce config depth) config)
      (Reduction.pairs config fields) = some gathered)
    (leaves : ∀ part ∈ gathered.parts, ∀ leaf ∈ part.leaves, leaf.Legible)
    (spoken : ∃ part ∈ gathered.parts, part.clause.isEmpty = false) :
    ∃ outcome readings, reduce config (depth + 1) (.map fields negated) = some outcome ∧
      Clause.ReadsEach (gathered.parts.map Fragment.clause) readings ∧
      (∀ assignment, outcome.fragment.clause.truth assignment =
        some (negated ^^ holds assignment (readings.foldr (combine .and) []))) ∧
      (Reduction.ComparesSingly config fields →
        ∀ assignment, outcome.fragment.clause.truth assignment =
          some (negated ^^ gathered.parts.all fun part =>
            part.clause.isEmpty || part.clause.truth assignment = some true)) := by
  have each {kind : Alternatives → Prop}
      (kinds : ∀ part ∈ gathered.parts, part.clause.ReadsAs kind) :
      ∃ readings, Clause.ReadsEach (gathered.parts.map Fragment.clause) readings ∧
        readings ≠ [] ∧ ∀ alternatives ∈ readings, kind alternatives := by
    obtain ⟨readings, reads, all⟩ :=
      Clause.ReadsAs.each (gathered.parts.map Fragment.clause) (List.forall_mem_map.mpr kinds)
    obtain ⟨part, inside, live⟩ := spoken
    refine ⟨readings, reads, ?_, all⟩
    rintro rfl
    have nothing := List.all_eq_true.mp reads.all_is_empty _ (List.mem_map_of_mem inside)
    rw [live] at nothing
    cases nothing
  obtain ⟨readings, reads, present, _⟩ := each fun part inside => part.legible (leaves part inside)
  refine ⟨gathered.outcome (Reduction.conjunction false negated), readings, ?_, reads,
    Reduction.truth_conjunction negated reads present, ?_⟩
  · rw [reduce, Reduction.ofNode, reached]
    rfl
  · intro comparisons assignment
    obtain ⟨others, singly, othersPresent, lengths⟩ := each fun part inside => by
      obtain ⟨pair, entry, first, reduced, rfl⟩ :=
        Reduction.of_parts_parts _ gathered reached part inside
      exact (Reduction.of_pair_part (reduce_kept_together config depth) fields negated pair entry
        first reduced).undivided comparisons (leaves _ inside)
    have truths := singly.truths assignment
    rw [List.all_map] at truths
    have read := Reduction.truth_conjunction negated singly othersPresent assignment
    rw [holds_foldr_beside assignment lengths othersPresent, ← truths] at read
    exact read

/-- Equality that holds of null too, once with its alternatives in parentheses and once
without. -/
def nullableConfig : Config :=
  { Config.default.withHook "own" fun _ operand _ =>
      some (.node (.raw "owner = ? OR public" [operand] false)) with
    operators :=
      (Registry.builtin.insert "nullable" (Operator.plain.withTemplate
          "(\x7bcolumn\x7d \x7boperator\x7d ? OR \x7bcolumn\x7d IS NULL)")).insert
        "bare" (Operator.plain.withTemplate
          "\x7bcolumn\x7d \x7boperator\x7d ? OR \x7bcolumn\x7d IS NULL") }

/-- A mapping whose comparisons have their parentheses. -/
def enclosedFields : Table Value :=
  .ofList [("a__nullable", .int 1), ("own", .int 2), ("b", .int 3)]

/-- A mapping with a comparison that lacks them. -/
def bareFields : Table Value := .ofList [("a__bare", .int 1), ("b", .int 2)]

/-- A negated mapping of a comparison with its alternatives in parentheses, a hook with raw SQL
and a built-in comparison. It is the opposite of their conjunction. -/
theorem enclosed_fields_conjoined :
    ∃ gathered outcome,
      Gathered.ofParts (Reduction.ofPair (reduce nullableConfig 1) nullableConfig)
        (Reduction.pairs nullableConfig enclosedFields) = some gathered ∧
      reduce nullableConfig 2 (.map enclosedFields true) = some outcome ∧
      outcome.fragment.clause =
        ⟨"NOT ((\"a\" = ? OR \"a\" IS NULL) AND (owner = ? OR public) AND \"b\" = ?)",
          [.int 1, .int 2, .int 3]⟩ ∧
      ∀ assignment, outcome.fragment.clause.truth assignment =
        some (true ^^ gathered.parts.all fun part =>
          part.clause.isEmpty || part.clause.truth assignment = some true) := by
  have opened : Clause.Legible ⟨"\"a\" = ? OR \"a\" IS NULL", [.int 1]⟩ := .of_expression rfl
  have first : Clause.Undivided ⟨"(\"a\" = ? OR \"a\" IS NULL)", [.int 1]⟩ :=
    Clause.ReadsAs.grouped false opened
  have second : Clause.Legible ⟨"owner = ? OR public", [.int 2]⟩ := .of_expression rfl
  have third : Clause.Legible ⟨"\"b\" = ?", [.int 3]⟩ := .of_expression rfl
  have leaves : ∀ part ∈ [Fragment.leaf ⟨"(\"a\" = ? OR \"a\" IS NULL)", [.int 1]⟩,
      .grouped false (.leaf ⟨"owner = ? OR public", [.int 2]⟩), .leaf ⟨"\"b\" = ?", [.int 3]⟩],
      ∀ leaf ∈ part.leaves, leaf.Legible := by
    simp [Fragment.leaves, first.legible, second, third]
  obtain ⟨outcome, _, reduced, _, _, conjoined⟩ := mapping_read_beside nullableConfig 1
    enclosedFields true ⟨_, none, []⟩ rfl leaves ⟨_, List.mem_cons_self, rfl⟩
  refine ⟨_, outcome, rfl, reduced, ?_, conjoined ?_⟩
  · cases reduced
    rfl
  · intro key value operator member unhooked selected foreign
    have entries : enclosedFields.entries =
        [("a__nullable", .int 1), ("own", .int 2), ("b", .int 3)] := rfl
    simp only [entries, List.mem_cons, Prod.mk.injEq, List.not_mem_nil, or_false] at member
    rcases member with ⟨rfl, rfl⟩ | ⟨rfl, rfl⟩ | ⟨rfl, rfl⟩
    · cases selected
      exact first
    · cases unhooked
    · cases selected
      exact absurd ⟨"exact", List.mem_cons_self⟩ foreign

/-- A template that names the column and the symbol and has one placeholder, but lacks
parentheses around its alternatives: the other pairs bind only its last alternative, so the
mapping holds where one of them does not. -/
theorem bare_alternatives_escape :
    ∃ operator template gathered outcome assignment,
      nullableConfig.operators.operators.get? "bare" = some operator ∧
      operator.template = some template ∧
      Operator.columnMark.toList <:+: template.toList ∧
      Operator.symbolMark.toList <:+: template.toList ∧
      template.toList.count '?' = 1 ∧
      Gathered.ofParts (Reduction.ofPair (reduce nullableConfig 1) nullableConfig)
        (Reduction.pairs nullableConfig bareFields) = some gathered ∧
      gathered.parts.map Fragment.clause =
        [⟨"\"a\" = ? OR \"a\" IS NULL", [.int 1]⟩, ⟨"\"b\" = ?", [.int 2]⟩] ∧
      reduce nullableConfig 2 (.map bareFields false) = some outcome ∧
      outcome.fragment.clause.sql = "(\"a\" = ? OR \"a\" IS NULL AND \"b\" = ?)" ∧
      outcome.fragment.clause.truth assignment = some true ∧
      gathered.parts.map (fun part => part.clause.truth assignment) = [some true, some false] := by
  refine ⟨_, _, _, _, fun clause => clause.sql = "\"a\" = ?", rfl, rfl, ?_, ?_, by decide, rfl,
    rfl, rfl, rfl, rfl, rfl⟩
  · exact ⟨[], " \x7boperator\x7d ? OR \x7bcolumn\x7d IS NULL".toList, rfl⟩
  · exact ⟨"\x7bcolumn\x7d ".toList, " ? OR \x7bcolumn\x7d IS NULL".toList, rfl⟩

end SqlCondition
