import SqlCondition.Clause.Basic
import SqlCondition.Options
import SqlCondition.Text.Pieces
import SqlCondition.Value.Coercion

/-!
# Operators

An operator turns a quoted column and a value into a clause. It fills a template
with its symbol and the column and binds the value, changed first if it says so;
or it builds the clause itself. An operator may also stand for another one by
name.
-/

namespace SqlCondition

/-- How an operator builds a clause by itself, given the quoted column, the value
and the options. As with hooks, hooks and operators in force are not handed over: for
a fixed configuration they are constant, and a builder may have them built in. -/
abbrev ClauseBuilder := String → Value → Options → Clause

/-- How a column is compared with a value. -/
structure Operator where
  /-- The operator that is meant instead. -/
  aliasOf : Option String
  symbol : Option String
  template : Option String
  builder : Option ClauseBuilder
  /-- What the value becomes before it is bound. -/
  change : Option (Value → Value)

namespace Operator

/-- The operator that says nothing special: equality. -/
def plain : Operator := ⟨none, none, none, none, none⟩

/-- The operator with a symbol. -/
def ofSymbol (symbol : String) : Operator := { plain with symbol := some symbol }

/-- The operator that stands for another one. -/
def ofAlias (name : String) : Operator := { plain with aliasOf := some name }

/-- The operator that builds its clauses itself. -/
def ofBuilder (builder : ClauseBuilder) : Operator := { plain with builder := some builder }

/-- The operator with another template. -/
def withTemplate (operator : Operator) (template : String) : Operator :=
  { operator with template := some template }

/-- The operator with a change of values. -/
def withChange (operator : Operator) (change : Value → Value) : Operator :=
  { operator with change := some change }

/-- The usual symbol. -/
def defaultSymbol : String := "="

/-- Where a template names the column. -/
def columnMark : String := "\x7bcolumn\x7d"

/-- Where a template names the symbol. -/
def symbolMark : String := "\x7boperator\x7d"

/-- The usual template. -/
def defaultTemplate : String := columnMark ++ " " ++ symbolMark ++ " ?"

/-- The template that ignores case. -/
def lowerTemplate : String := "LOWER(" ++ columnMark ++ ") " ++ symbolMark ++ " LOWER(?)"

/-- A template with its symbol and then its column filled in. -/
def fill (template symbol column : String) : String :=
  Text.replace (Text.replace template symbolMark symbol) columnMark column

/-- The value that an operator binds. -/
def bound (operator : Operator) (value : Value) : Value :=
  ((operator.change.getD id) value).toWire

/-- The clause that compares a column with a value. -/
def build (operator : Operator) (column : String) (value : Value) (options : Options) : Clause :=
  match operator.builder with
  | some builder => builder column value options
  | none =>
      ⟨fill (operator.template.getD defaultTemplate) (operator.symbol.getD defaultSymbol) column,
        [operator.bound value]⟩

/-- The shown form of an operator. -/
def shown (operator : Operator) : String :=
  Text.record "Operator"
    [("alias_of", Text.optional (operator.aliasOf.map Text.quoted)),
      ("symbol", Text.optional (operator.symbol.map Text.quoted)),
      ("template", Text.optional (operator.template.map Text.quoted)),
      ("custom_build", Text.shownBool operator.builder.isSome),
      ("mod_value", Text.shownBool operator.change.isSome)]

end Operator

end SqlCondition
