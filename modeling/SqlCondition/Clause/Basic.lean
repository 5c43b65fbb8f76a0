import SqlCondition.Text.Pieces
import SqlCondition.Value.Basic

/-!
# Clauses and fragments

A clause is a piece of SQL with a placeholder for every value bound to it, and
those values in order. Clauses are joined by a connective and enclosed in
parentheses; an empty clause disappears in both.

A fragment is a clause whose structure is still visible: clauses joined by a
connective, and groups with their negation. Parts that say nothing disappear when
the fragment is written as a clause.
-/

namespace SqlCondition

/-- A piece of SQL and the values for its placeholders. -/
structure Clause where
  sql : String
  values : List Value

namespace Clause

/-- The clause that says nothing. -/
def empty : Clause := ⟨"", []⟩

/-- Whether the clause says nothing. -/
def isEmpty (clause : Clause) : Bool := clause.sql.isEmpty

/-- The clause in parentheses, with the opposite meaning when negated. -/
def grouped (negated : Bool) (clause : Clause) : Clause :=
  if clause.isEmpty then clause
  else if negated then { clause with sql := "NOT (" ++ clause.sql ++ ")" }
  else { clause with sql := "(" ++ clause.sql ++ ")" }

/-- The clauses that say something, with a separator between neighbours. -/
def join (separator : String) (clauses : List Clause) : Clause :=
  let live := clauses.filter fun clause => !clause.isEmpty
  ⟨Text.join separator (live.map Clause.sql), live.flatMap Clause.values⟩

/-- An empty clause stays as it is. No parentheses are written around nothing. -/
theorem grouped_empty (negated : Bool) (clause : Clause) (silent : clause.isEmpty = true) :
    clause.grouped negated = clause := by
  simp [grouped, silent]

/-- Grouping keeps the values, since parentheses bind none. -/
theorem grouped_values (negated : Bool) (clause : Clause) :
    (clause.grouped negated).values = clause.values := by
  unfold grouped
  split
  · rfl
  · split <;> rfl

/-- An empty clause in front changes nothing: no separator is written for it. -/
theorem join_cons_empty (separator : String) (clause : Clause) (rest : List Clause)
    (silent : clause.isEmpty = true) : join separator (clause :: rest) = join separator rest := by
  simp [join, silent]

end Clause

/-! ## Fragments -/

/-- How parts are combined. -/
inductive Connective
  | and
  | or
  deriving DecidableEq

/-- What stands between parts. -/
def Connective.separator : Connective → String
  | .and => " AND "
  | .or => " OR "

/-- A clause with its structure. -/
inductive Fragment
  | leaf (clause : Clause)
  | joined (connective : Connective) (parts : List Fragment)
  | grouped (negated : Bool) (inner : Fragment)

namespace Fragment

/-- The fragment that says nothing. -/
def empty : Fragment := .leaf .empty

mutual

/-- The fragment written as a clause. -/
def clause : Fragment → Clause
  | .leaf clause => clause
  | .joined connective parts => Clause.join connective.separator (clauses parts)
  | .grouped negated inner => inner.clause.grouped negated

/-- Several fragments written as clauses. -/
def clauses : List Fragment → List Clause
  | [] => []
  | part :: rest => part.clause :: clauses rest

end

/-- Several fragments are written one by one, each as the clause it is. -/
theorem clauses_eq_map (parts : List Fragment) : clauses parts = parts.map clause := by
  induction parts with
  | nil => rfl
  | cons part rest inductionHypothesis => simp [clauses, inductionHypothesis]

end Fragment

end SqlCondition
