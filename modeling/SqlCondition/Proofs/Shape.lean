import Mathlib.Data.List.Forall2
import SqlCondition.Proofs.Assembly
import SqlCondition.Proofs.Form

/-!
# What a clause shows of an operand

What a caller compares columns with is bound to placeholders and never written. The
text of a clause shows no more of an operand than its shape: whether it is null, the
truth value that asks for the absence of null, a list with both ends of a range, a
shorter list, or anything else. A built-in operator and one that fills a template
write clauses that are alike for operands of one shape, and which operator is inferred
depends on the shape as well.
-/

namespace SqlCondition

namespace Value

/-- What the text of a clause shows of an operand. -/
inductive Shape
  | null
  /-- The truth value that asks for the absence of null. -/
  | no
  /-- A list with both ends of a range. -/
  | range
  /-- A list that lacks an end of a range. -/
  | short
  | other
  deriving DecidableEq

/-- The shape of an operand. -/
def shape : Value → Shape
  | .null => .null
  | .bool false => .no
  | .list (_ :: _ :: _) => .range
  | .list _ => .short
  | _ => .other

/-- Only the false truth value has its shape, the one operand that negates a test for null. -/
theorem shape_eq_no_iff (value : Value) : value.shape = .no ↔ value.asBool = some false := by
  cases value with
  | bool truth => cases truth <;> simp [shape, asBool]
  | list items =>
    unfold shape
    split <;> simp_all [asBool]
  | _ => simp [shape, asBool]

/-- Only lists with two members have the shape of one with both ends; a longer or shorter list
has none. -/
theorem shape_eq_range_iff (value : Value) :
    value.shape = .range ↔ (Operator.ends value).isSome = true := by
  unfold shape
  split <;> simp_all [Operator.ends]

end Value

namespace Registry

/-- The operator that is inferred for an operand depends on its shape only: a test for null,
membership for lists, and equality for all others. -/
theorem infer_of_shape (registry : Registry) {one two : Value} (same : one.shape = two.shape) :
    registry.infer one = registry.infer two := by
  have byShape (value : Value) : registry.infer value =
      match value.shape with
      | .null => registry.resolve "isnull"
      | .range | .short => registry.resolve "in"
      | .no | .other =>
          (some ((registry.resolve "exact").1.getD .plain), (registry.resolve "exact").2) := by
    cases value with
    | bool truth => cases truth <;> rfl
    | list items =>
      match items with
      | [] => rfl
      | [_] => rfl
      | _ :: _ :: _ => rfl
    | _ => rfl
  rw [byShape one, byShape two, same]

/-- So does the operator of a key. When the key names one, the operand is not looked at. -/
theorem select_of_shape (registry : Registry) (name : Option String) {one two : Value}
    (same : one.shape = two.shape) : registry.select name one = registry.select name two := by
  cases name with
  | some name => rfl
  | none => exact registry.infer_of_shape same

end Registry

namespace Clause

/-- Two clauses have the same text and bind as many values. -/
structure Alike (one two : Clause) : Prop where
  text : one.sql = two.sql
  amount : one.values.length = two.values.length

/-- A clause is like itself, text and amount of values alike. -/
theorem Alike.refl (clause : Clause) : clause.Alike clause := ⟨rfl, rfl⟩

/-- Of two clauses that are alike both say something or neither does, as the text tells. -/
theorem Alike.is_empty {one two : Clause} (alike : one.Alike two) : one.isEmpty = two.isEmpty := by
  rw [isEmpty, isEmpty, alike.text]

/-- Clauses that are alike stay so when others that are alike follow them. -/
theorem Alike.append {one two front back : Clause} (first : one.Alike two)
    (second : front.Alike back) : (one ++ front).Alike (two ++ back) where
  text := by rw [append_sql, append_sql, first.text, second.text]
  amount := by simp [first.amount, second.amount]

/-- So do they in parentheses. Neither gets any when they say nothing. -/
theorem Alike.grouped {one two : Clause} (alike : one.Alike two) (negated : Bool) :
    (one.grouped negated).Alike (two.grouped negated) := by
  cases silent : one.isEmpty with
  | true =>
    rw [grouped_empty negated one silent, grouped_empty negated two (alike.is_empty ▸ silent)]
    exact alike
  | false =>
    rw [grouped_live negated one silent, grouped_live negated two (alike.is_empty ▸ silent)]
    exact ((Alike.refl _).append alike).append (Alike.refl _)

/-- Joins are alike when their clauses are one by one, since the same clauses are left out of
both for saying nothing. -/
theorem Alike.join {clauses others : List Clause} (each : List.Forall₂ Alike clauses others)
    (separator : String) :
    (Clause.join separator clauses).Alike (Clause.join separator others) := by
  induction each with
  | nil => exact Alike.refl _
  | @cons one two rest more alike others inductionHypothesis =>
    have silentToo : rest.all isEmpty = more.all isEmpty := by
      clear inductionHypothesis
      induction others with
      | nil => rfl
      | cons next _ inductionHypothesis => simp [next.is_empty, inductionHypothesis]
    cases silent : one.isEmpty with
    | true =>
      rw [join_cons_empty separator one rest silent,
        join_cons_empty separator two more (alike.is_empty ▸ silent)]
      exact inductionHypothesis
    | false =>
      rw [join_cons separator one rest silent,
        join_cons separator two more (alike.is_empty ▸ silent), silentToo]
      split
      · exact alike
      · exact (alike.append (Alike.refl _)).append inductionHypothesis

end Clause

namespace Operator

/-- Of an operand the operator shows its shape only. -/
def ShowsShape (operator : Operator) : Prop :=
  ∀ column (options : Options) (one two : Value), one.shape = two.shape →
    (operator.build column one options).Alike (operator.build column two options)

/-- An operator with a template writes the same for every operand, and binds one value. -/
theorem shows_shape_of_template (operator : Operator) (templated : operator.builder = none) :
    operator.ShowsShape := by
  intro column options one two _
  simp only [build, templated]
  exact ⟨rfl, rfl⟩

/-- An operator for ranges asks whether both ends are there, and writes the same for
all that are. -/
theorem shows_shape_of_ends (builder : ClauseBuilder)
    (missing : ∀ column value options, ends value = none → builder column value options = .empty)
    (given : ∀ column options one two pair other, ends one = some pair → ends two = some other →
      (builder column one options).Alike (builder column two options)) :
    (ofBuilder builder).ShowsShape := by
  intro column options one two same
  have both : (ends one).isSome = (ends two).isSome := by
    rw [Bool.eq_iff_iff, ← one.shape_eq_range_iff, ← two.shape_eq_range_iff, same]
  simp only [build, ofBuilder]
  cases first : ends one with
  | none =>
    have second : ends two = none := by simpa [first] using both
    rw [missing column one options first, missing column two options second]
    exact Clause.Alike.refl _
  | some pair =>
    obtain ⟨other, second⟩ := Option.isSome_iff_exists.mp (both.symm.trans (by rw [first]; rfl))
    exact given column options one two pair other first second

/-- No built-in operator shows more. Each fills a template, asks for the ends of a range, or
asks whether the operand is the false truth value. -/
theorem IsBuiltin.shows_shape {operator : Operator} (builtin : operator.IsBuiltin) :
    operator.ShowsShape := by
  rcases builtin.template_or_builder with templated | rfl | rfl | rfl
  · exact operator.shows_shape_of_template templated
  · apply shows_shape_of_ends
    · intro column value options absent
      simp only [between, absent]
    · intro column options one two pair other first second
      simp only [between, first, second]
      exact ⟨rfl, rfl⟩
  · apply shows_shape_of_ends
    · intro column value options absent
      simp only [betweenDates, absent]
    · intro column options one two pair other first second
      simp only [betweenDates, first, second]
      exact ⟨rfl, rfl⟩
  · intro column options one two same
    have negative : one.asBool = some false ↔ two.asBool = some false := by
      rw [← one.shape_eq_no_iff, ← two.shape_eq_no_iff, same]
    simp only [build, ofBuilder, nullTest, negative]
    exact Clause.Alike.refl _

end Operator

namespace Registry

/-- Every registered operator is built in or fills a template, as aliases do. -/
def Templated (registry : Registry) : Prop :=
  ∀ name operator, registry.operators.get? name = some operator →
    operator.IsBuiltin ∨ operator.builder = none

/-- The built-in operators are such a registry, as each of them is built in. -/
theorem templated_builtin : builtin.Templated := fun name operator registered =>
  Or.inl ⟨name, Table.mem_of_get?_of_list builtinOperators name operator registered⟩

/-- One more operator that fills a template changes nothing about that, nor does it when it
takes the place of another one. -/
theorem Templated.insert {registry : Registry} (templated : registry.Templated) (name : String)
    {operator : Operator} (fills : operator.builder = none) :
    (registry.insert name operator).Templated := by
  intro asked found registered
  rw [Registry.insert, Table.get?_insert] at registered
  split at registered
  · cases registered
    exact Or.inr fills
  · exact templated asked found registered

/-- What such a registry selects is built in or fills a template as well, whether it is named,
reached over aliases or inferred. -/
theorem Templated.select {registry : Registry} (templated : registry.Templated)
    (name : Option String) (value : Value) (operator : Operator)
    (selected : (registry.select name value).1 = some operator) :
    operator.IsBuiltin ∨ operator.builder = none :=
  registry.select_all templated (Or.inr rfl) name value operator selected

/-- So it shows shapes only, which is all that the text of a comparison depends on. -/
theorem Templated.select_shows_shape {registry : Registry} (templated : registry.Templated)
    (name : Option String) (value : Value) (operator : Operator)
    (selected : (registry.select name value).1 = some operator) : operator.ShowsShape := by
  rcases templated.select name value operator selected with builtin | fills
  · exact builtin.shows_shape
  · exact operator.shows_shape_of_template fills

end Registry

end SqlCondition
