import SqlCondition.Config
import SqlCondition.Proofs.Column
import SqlCondition.Proofs.Template

/-!
# The texts of built-in operators

A built-in operator writes nothing, or the column between two fixed texts with a
fixed number of placeholders, and binds as many values. The texts are listed once;
what a scan makes of a comparison is decided on that list, for every column.
-/

namespace SqlCondition

/-- The text around a column, and how many placeholders it holds. -/
structure Form where
  front : String
  back : String
  marks : Nat
  deriving DecidableEq

namespace Form

/-- The text with a column in it. -/
def write (form : Form) (column : String) : String := form.front ++ column ++ form.back

/-- The characters of the text are those in front of the column, those of the column and those
behind it. -/
theorem to_list_write (form : Form) (column : String) :
    (form.write column).toList = form.front.toList ++ column.toList ++ form.back.toList := by
  rw [write, String.toList_append, String.toList_append]

/-- The forms of the built-in operators. -/
def builtin : List Form :=
  [⟨"", " = ?", 1⟩, ⟨"", " <> ?", 1⟩, ⟨"", " > ?", 1⟩, ⟨"", " < ?", 1⟩, ⟨"", " >= ?", 1⟩,
    ⟨"", " <= ?", 1⟩, ⟨"", " LIKE ?", 1⟩, ⟨"LOWER(", ") = LOWER(?)", 1⟩,
    ⟨"LOWER(", ") <> LOWER(?)", 1⟩, ⟨"LOWER(", ") LIKE LOWER(?)", 1⟩, ⟨"", " IN (?)", 1⟩,
    ⟨"DATE(", ") = ?", 1⟩, ⟨"", " BETWEEN ? AND ?", 2⟩, ⟨"DATE(", ") BETWEEN ? AND ?", 2⟩,
    ⟨"", " IS NULL", 0⟩, ⟨"", " IS NOT NULL", 0⟩]

open Placeholder

/-- Neither side leaves a quote open, the placeholders stand on the second one, and
it closes the parentheses that the first one opens. -/
def Fits (form : Form) : Prop :=
  quoteAfter none form.front.toList = none ∧ countFrom none form.front.toList = 0 ∧
    quoteAfter none form.back.toList = none ∧ countFrom none form.back.toList = form.marks ∧
    ((nestFrom none 0 form.front.toList).bind fun opened => nestFrom none opened form.back.toList) =
      some 0

instance (form : Form) : Decidable form.Fits := inferInstanceAs (Decidable (_ ∧ _ ∧ _ ∧ _ ∧ _))

/-- Every built-in form fits. There are finitely many of them, and the check of each is a
computation. -/
theorem builtin_fits : ∀ form ∈ builtin, form.Fits := by decide

/-- A form that fits stays neutral around a column that is, with the placeholders of the form
and no others. -/
theorem Fits.neutral {form : Form} (fits : form.Fits) {column : String}
    (quoted : Neutral column.toList 0) : Neutral (form.write column).toList form.marks := by
  obtain ⟨frontClosed, frontUnmarked, backClosed, backMarks, nesting⟩ := fits
  obtain ⟨opened, frontOpens, backCloses⟩ := Option.bind_eq_some_iff.mp nesting
  have around := quoted.between form.front.toList form.back.toList frontClosed frontOpens
    frontUnmarked backClosed backCloses backMarks
  simpa only [to_list_write, Nat.zero_add] using around

end Form

namespace Clause

/-- The clause is empty, or a built-in form around the column with a value for every
placeholder. -/
def Formed (column : String) (clause : Clause) : Prop :=
  clause = .empty ∨
    ∃ form ∈ Form.builtin, clause.sql = form.write column ∧ clause.values.length = form.marks

end Clause

namespace Operator

/-- The operator is one of the built-in ones. -/
def IsBuiltin (operator : Operator) : Prop := ∃ name, (name, operator) ∈ Registry.builtinOperators

/-- A built-in operator fills a template, or it is one of three that build their clauses
themselves. -/
theorem IsBuiltin.template_or_builder {operator : Operator} (builtin : operator.IsBuiltin) :
    operator.builder = none ∨ operator = ofBuilder between ∨ operator = ofBuilder betweenDates ∨
      operator = ofBuilder nullTest := by
  obtain ⟨name, listed⟩ := builtin
  have parts : Registry.builtinOperators = Registry.builtinOperators.take 16 ++
      [("between", ofBuilder between), ("datebetween", ofBuilder betweenDates),
        ("isnull", ofBuilder nullTest)] := rfl
  rw [parts] at listed
  rcases List.mem_append.mp listed with template | own
  · have templates :
        ∀ entry ∈ Registry.builtinOperators.take 16, entry.2.builder.isNone = true := by decide
    exact Or.inl (Option.isNone_iff_eq_none.mp (templates _ template))
  · simp only [List.mem_cons, List.not_mem_nil, or_false, Prod.mk.injEq] at own
    rcases own with ⟨_, same⟩ | ⟨_, same⟩ | ⟨_, same⟩
    · exact Or.inr (Or.inl same)
    · exact Or.inr (Or.inr (Or.inl same))
    · exact Or.inr (Or.inr (Or.inr same))

/-- A template with one place for the column and, behind it, one for the symbol writes a form
around the column. -/
theorem fill_around {front between back symbol : String} (frontUnopened : Unopened front)
    (betweenUnopened : Unopened between) (backUnopened : Unopened back)
    (unopened : Unopened symbol) (marks : Nat) (column : String) :
    fill (front ++ columnMark ++ between ++ symbolMark ++ back) symbol column =
      Form.write ⟨front, between ++ symbol ++ back, marks⟩ column := by
  let pieces : List Piece := [.literal front frontUnopened, .column,
    .literal between betweenUnopened, .symbol, .literal back backUnopened]
  have written (symbol column : String) :
      spell pieces symbol column = front ++ column ++ between ++ symbol ++ back := by
    apply String.toList_inj.mp
    simp [pieces, spell, Piece.spelled]
  have filled := fill_template_of pieces unopened column
  rw [templateOf, written, written] at filled
  rw [filled]
  simp only [Form.write, String.append_assoc]

/-- The usual template with a built-in symbol writes the column, the symbol and a placeholder.
The symbol is one of a list, in which no brace occurs. -/
theorem fill_default (symbol : String)
    (known : symbol ∈ ["=", "<>", ">", "<", ">=", "<=", "LIKE"]) (column : String) :
    fill defaultTemplate symbol column = Form.write ⟨"", " " ++ symbol ++ " ?", 1⟩ column := by
  have unopened : ∀ symbol ∈ ["=", "<>", ">", "<", ">=", "<=", "LIKE"], Unopened symbol := by decide
  have around := fill_around (by decide : Unopened "") (by decide : Unopened " ")
    (by decide : Unopened " ?") (unopened symbol known) 1 column
  rwa [String.empty_append] at around

/-- A comparison by the usual template keeps to a listed form, with one value for one
placeholder. -/
theorem formed_default (symbol : String)
    (known : symbol ∈ ["=", "<>", ">", "<", ">=", "<=", "LIKE"]) (column : String) (value : Value) :
    Clause.Formed column ⟨fill defaultTemplate symbol column, [value]⟩ := by
  have listed : (⟨"", " " ++ symbol ++ " ?", 1⟩ : Form) ∈ Form.builtin := by
    simp only [List.mem_cons, List.not_mem_nil, or_false] at known
    rcases known with rfl | rfl | rfl | rfl | rfl | rfl | rfl <;> decide
  exact Or.inr ⟨_, listed, fill_default symbol known column, rfl⟩

/-- The template that ignores case, with a built-in symbol, puts the column and the placeholder
as arguments of `LOWER` on both sides of the symbol. -/
theorem fill_lower (symbol : String) (known : symbol ∈ ["=", "<>", "LIKE"]) (column : String) :
    fill lowerTemplate symbol column =
      Form.write ⟨"LOWER(", ") " ++ symbol ++ " LOWER(?)", 1⟩ column := by
  have unopened : ∀ symbol ∈ ["=", "<>", "LIKE"], Unopened symbol := by decide
  exact fill_around (by decide) (by decide) (by decide) (unopened symbol known) 1 column

/-- A comparison that ignores case keeps to a listed form, with one value for one placeholder. -/
theorem formed_lower (symbol : String) (known : symbol ∈ ["=", "<>", "LIKE"]) (column : String)
    (value : Value) : Clause.Formed column ⟨fill lowerTemplate symbol column, [value]⟩ := by
  have listed : (⟨"LOWER(", ") " ++ symbol ++ " LOWER(?)", 1⟩ : Form) ∈ Form.builtin := by
    simp only [List.mem_cons, List.not_mem_nil, or_false] at known
    rcases known with rfl | rfl | rfl <;> decide
  exact Or.inr ⟨_, listed, fill_lower symbol known column, rfl⟩

/-- Membership in a list keeps to the form with one placeholder between parentheses, to which
the whole list is bound. -/
theorem formed_membership (column : String) (value : Value) (options : Options) :
    Clause.Formed column (membership.build column value options) := by
  have around := fill_around (by decide : Unopened "") (by decide : Unopened " ")
    (by decide : Unopened " (?)") (by decide : Unopened "IN") 1 column
  rw [String.empty_append] at around
  exact Or.inr ⟨⟨"", " IN (?)", 1⟩, by decide, around, rfl⟩

/-- Equality of dates keeps to the form in which the column is an argument of `DATE`, with the
date as its value. -/
theorem formed_on_date (column : String) (value : Value) (options : Options) :
    Clause.Formed column (onDate.build column value options) := by
  have around := fill_around (by decide : Unopened "DATE(") (by decide : Unopened ") ")
    (by decide : Unopened " ?") (by decide : Unopened defaultSymbol) 1 column
  exact Or.inr ⟨⟨"DATE(", ") = ?", 1⟩, by decide, around, rfl⟩

/-- A range of values or of dates keeps to a form with two placeholders and binds both ends, or
it is empty for a value that has no two ends. -/
theorem formed_ranges (column : String) (value : Value) (options : Options) :
    Clause.Formed column (between column value options) ∧
      Clause.Formed column (betweenDates column value options) := by
  unfold between betweenDates
  cases ends value with
  | none => exact ⟨Or.inl rfl, Or.inl rfl⟩
  | some pair =>
    refine ⟨Or.inr ⟨⟨"", " BETWEEN ? AND ?", 2⟩, by decide, ?_, rfl⟩,
      Or.inr ⟨⟨"DATE(", ") BETWEEN ? AND ?", 2⟩, by decide, rfl, rfl⟩⟩
    simp [Form.write]

/-- The test for null keeps to one of two forms without a placeholder, and binds nothing. -/
theorem formed_null_test (column : String) (value : Value) (options : Options) :
    Clause.Formed column (nullTest column value options) := by
  unfold nullTest
  split
  · exact Or.inr ⟨⟨"", " IS NOT NULL", 0⟩, by decide, by simp [Form.write], rfl⟩
  · exact Or.inr ⟨⟨"", " IS NULL", 0⟩, by decide, by simp [Form.write], rfl⟩

/-- A built-in operator keeps to the built-in forms, for every column and value. There is one
case for each of the nineteen operators, most of them by one of the two templates. -/
theorem build_formed (operator : Operator) (builtin : operator.IsBuiltin) (column : String)
    (value : Value) (options : Options) :
    (operator.build column value options).Formed column := by
  have usual (symbol : String)
      (known : symbol ∈ ["=", "<>", ">", "<", ">=", "<=", "LIKE"]) (bound : Value) :=
    formed_default symbol known column bound
  have lower (symbol : String) (known : symbol ∈ ["=", "<>", "LIKE"]) (bound : Value) :=
    formed_lower symbol known column bound
  obtain ⟨name, listed⟩ := builtin
  simp only [Registry.builtinOperators, List.mem_cons, List.not_mem_nil, or_false, Prod.mk.injEq]
    at listed
  rcases listed with ⟨_, rfl⟩ | ⟨_, rfl⟩ | ⟨_, rfl⟩ | ⟨_, rfl⟩ | ⟨_, rfl⟩ | ⟨_, rfl⟩ | ⟨_, rfl⟩ |
    ⟨_, rfl⟩ | ⟨_, rfl⟩ | ⟨_, rfl⟩ | ⟨_, rfl⟩ | ⟨_, rfl⟩ | ⟨_, rfl⟩ | ⟨_, rfl⟩ | ⟨_, rfl⟩ | ⟨_, rfl⟩ |
    ⟨_, rfl⟩ | ⟨_, rfl⟩ | ⟨_, rfl⟩
  · exact usual "=" (by decide) _
  · exact lower "=" (by decide) _
  · exact usual "<>" (by decide) _
  · exact lower "<>" (by decide) _
  · exact usual ">" (by decide) _
  · exact usual "<" (by decide) _
  · exact usual ">=" (by decide) _
  · exact usual "<=" (by decide) _
  · exact usual "LIKE" (by decide) _
  · exact lower "LIKE" (by decide) _
  · exact usual "LIKE" (by decide) _
  · exact lower "LIKE" (by decide) _
  · exact usual "LIKE" (by decide) _
  · exact lower "LIKE" (by decide) _
  · exact formed_membership column value options
  · exact formed_on_date column value options
  · exact (formed_ranges column value options).1
  · exact (formed_ranges column value options).2
  · exact formed_null_test column value options

end Operator

namespace Registry

/-- Every operator that the built-in registry selects is built in, whether it was named or
inferred from the value. -/
theorem select_builtin (name : Option String) (value : Value) (operator : Operator)
    (selected : (builtin.select name value).1 = some operator) : operator.IsBuiltin := by
  have registered (name : String) (operator : Operator)
      (found : builtin.operators.get? name = some operator) : operator.IsBuiltin :=
    ⟨name, Table.mem_of_get?_of_list builtinOperators name operator found⟩
  have equality : Operator.plain.IsBuiltin := ⟨"exact", List.mem_cons_self⟩
  exact builtin.select_all registered equality name value operator selected

end Registry

end SqlCondition
