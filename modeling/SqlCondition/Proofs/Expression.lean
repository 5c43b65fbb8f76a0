import SqlCondition.Clause.Basic

/-!
# Expressions and how they are written

The text of a condition is a row of tokens: atoms, which are clauses that are not
looked into, parentheses, and the words AND, OR and NOT. NOT takes the next operand
alone, AND joins operands before OR does, and what stands in parentheses is one
operand. The grammar has a rank for each of these strengths.
-/

namespace SqlCondition

/-- A piece of the text of a condition. -/
inductive Token
  | atom (clause : Clause)
  | opening
  | closing
  | and
  | or
  | not

namespace Token

/-- How a token is written, with the blanks around it. -/
def spelling : Token → String
  | .atom clause => clause.sql
  | .opening => "("
  | .closing => ")"
  | .and => " AND "
  | .or => " OR "
  | .not => "NOT "

/-- The text of a row of tokens. -/
def text : List Token → String
  | [] => ""
  | token :: rest => token.spelling ++ text rest

/-- The clause that an atom is. -/
def clause? : Token → Option Clause
  | .atom clause => some clause
  | _ => none

/-- The atoms of a row of tokens. -/
def atoms (tokens : List Token) : List Clause := tokens.filterMap clause?

/-- The word for a connective. -/
def ofConnective : Connective → Token
  | .and => .and
  | .or => .or

/-- The text of a row of tokens that is put together is the texts of the two rows one after
another. -/
theorem text_append (front back : List Token) : text (front ++ back) = text front ++ text back := by
  induction front with
  | nil => exact String.empty_append.symm
  | cons token rest inductionHypothesis =>
    simp only [List.cons_append, text, inductionHypothesis, String.append_assoc]

/-- The atoms of a row of tokens that is put together are those of the first row and then those
of the second. -/
theorem atoms_append (front back : List Token) :
    atoms (front ++ back) = atoms front ++ atoms back := List.filterMap_append

/-- A connective is written with the blanks around it, so it is spelled as the separator that
clauses are joined with. -/
theorem spelling_of_connective (connective : Connective) :
    (ofConnective connective).spelling = connective.separator := by
  cases connective <;> rfl

end Token

/-- A condition on atoms. -/
inductive Expression
  | atom (clause : Clause)
  | not (operand : Expression)
  | and (first second : Expression)
  | or (first second : Expression)

namespace Expression

/-- The truth of an expression when the truth of every atom is given. -/
def eval (assignment : Clause → Bool) : Expression → Bool
  | .atom clause => assignment clause
  | .not operand => !operand.eval assignment
  | .and first second => first.eval assignment && second.eval assignment
  | .or first second => first.eval assignment || second.eval assignment

/-- Join an expression to what stands before it, if anything does. -/
def behind (join : Expression → Expression → Expression) :
    Option Expression → Expression → Expression
  | none, last => last
  | some earlier, last => join earlier last

/-- The truth of what is joined by AND; nothing is true. -/
def evalFactors (assignment : Clause → Bool) (earlier : Option Expression) : Bool :=
  (earlier.map (eval assignment)).getD true

/-- The truth of what is joined by OR; nothing is false. -/
def evalAlternatives (assignment : Clause → Bool) (earlier : Option Expression) : Bool :=
  (earlier.map (eval assignment)).getD false

/-- A factor behind earlier ones is true together with them only when all of them and itself
are. -/
@[simp]
theorem eval_behind_and (assignment : Clause → Bool) (earlier : Option Expression)
    (last : Expression) :
    (behind .and earlier last).eval assignment =
      (evalFactors assignment earlier && last.eval assignment) := by
  cases earlier <;> simp [behind, evalFactors, eval]

/-- An alternative behind earlier ones makes the whole true when one of them or itself is. -/
@[simp]
theorem eval_behind_or (assignment : Clause → Bool) (earlier : Option Expression)
    (last : Expression) :
    (behind .or earlier last).eval assignment =
      (evalAlternatives assignment earlier || last.eval assignment) := by
  cases earlier <;> simp [behind, evalAlternatives, eval]

/-- How strongly the parts of a row of tokens hold together. -/
inductive Rank
  /-- An atom, an operand behind NOT, or anything in parentheses. -/
  | operand
  /-- Operands joined by AND. -/
  | conjunction
  /-- Conjunctions joined by OR. -/
  | disjunction

/-- A row of tokens spells an expression of a rank. -/
inductive Spells : Rank → List Token → Expression → Prop
  | atom (clause : Clause) : Spells .operand [.atom clause] (.atom clause)
  | not {tokens : List Token} {operand : Expression} (inside : Spells .operand tokens operand) :
      Spells .operand (.not :: tokens) (.not operand)
  | enclosed {tokens : List Token} {expression : Expression}
      (inside : Spells .disjunction tokens expression) :
      Spells .operand (.opening :: (tokens ++ [.closing])) expression
  | single {tokens : List Token} {operand : Expression} (own : Spells .operand tokens operand) :
      Spells .conjunction tokens operand
  | and {front back : List Token} {earlier last : Expression}
      (first : Spells .conjunction front earlier) (second : Spells .operand back last) :
      Spells .conjunction (front ++ .and :: back) (.and earlier last)
  | alternative {tokens : List Token} {conjunction : Expression}
      (own : Spells .conjunction tokens conjunction) : Spells .disjunction tokens conjunction
  | or {front back : List Token} {earlier last : Expression}
      (first : Spells .disjunction front earlier) (second : Spells .conjunction back last) :
      Spells .disjunction (front ++ .or :: back) (.or earlier last)

end Expression

end SqlCondition
