import SqlCondition.Operator.Registry

/-!
# Built-in operators

Equality and its negation, order, patterns, membership, dates, ranges and null
tests. The operators whose names begin with `i` compare in lower case.
-/

namespace SqlCondition

namespace Operator

/-- A pattern operator: the value's text is made a pattern. -/
def like (pattern : String → String) : Operator :=
  (ofSymbol "LIKE").withChange fun value => .text (pattern value.toText)

/-- The pattern of texts that start with a text. -/
def startPattern (text : String) : String := text ++ "%"

/-- The pattern of texts that end with a text. -/
def endPattern (text : String) : String := "%" ++ text

/-- The pattern of texts that contain a text. -/
def insidePattern (text : String) : String := "%" ++ text ++ "%"

/-- Membership in a list. -/
def membership : Operator :=
  ((ofSymbol "IN").withTemplate (columnMark ++ " " ++ symbolMark ++ " (?)")).withChange Value.toList

/-- Equality of dates. -/
def onDate : Operator :=
  (plain.withTemplate ("DATE(" ++ columnMark ++ ") " ++ symbolMark ++ " ?")).withChange
    fun value => .text value.toDateText

/-- The first two members of a list. -/
def ends : Value → Option (Value × Value)
  | .list (first :: last :: _) => some (first, last)
  | _ => none

/-- A range from the first member of a list to the second; other values say
nothing. -/
def between : ClauseBuilder := fun column value _ =>
  match ends value with
  | some (first, last) => ⟨column ++ " BETWEEN ? AND ?", [first.toRangeBound, last.toRangeBound]⟩
  | none => .empty

/-- A range of dates from the first member of a list to the second; other values
say nothing. -/
def betweenDates : ClauseBuilder := fun column value _ =>
  match ends value with
  | some (first, last) =>
      ⟨"DATE(" ++ column ++ ") BETWEEN ? AND ?", [.text first.toDateText, .text last.toDateText]⟩
  | none => .empty

/-- The test for null, or for its absence when the value is false. -/
def nullTest : ClauseBuilder := fun column value _ =>
  ⟨column ++ (if value.asBool = some false then " IS NOT NULL" else " IS NULL"), []⟩

end Operator

namespace Registry

open Operator

/-- The built-in operators with their names. -/
def builtinOperators : List (String × Operator) :=
  [("exact", plain),
    ("iexact", plain.withTemplate lowerTemplate),
    ("notexact", ofSymbol "<>"),
    ("inotexact", (ofSymbol "<>").withTemplate lowerTemplate),
    ("gt", ofSymbol ">"),
    ("lt", ofSymbol "<"),
    ("gte", ofSymbol ">="),
    ("lte", ofSymbol "<="),
    ("startswith", like startPattern),
    ("istartswith", (like startPattern).withTemplate lowerTemplate),
    ("endswith", like endPattern),
    ("iendswith", (like endPattern).withTemplate lowerTemplate),
    ("contains", like insidePattern),
    ("icontains", (like insidePattern).withTemplate lowerTemplate),
    ("in", membership),
    ("date", onDate),
    ("between", ofBuilder between),
    ("datebetween", ofBuilder betweenDates),
    ("isnull", ofBuilder nullTest)]

/-- The registry of the built-in operators. -/
def builtin : Registry := ⟨.ofList builtinOperators⟩

end Registry

end SqlCondition
