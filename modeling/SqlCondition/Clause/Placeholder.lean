import SqlCondition.Clause.Basic
import SqlCondition.Text.Digits

/-!
# Placeholders

A question mark is a placeholder when it stands outside quoted spans. A span is
opened by a double quote, a backtick or an apostrophe and closed by the next
occurrence of the same character.

Numbering replaces placeholders from the left by `$1`, `$2` and so on, each with
the next value. A list whose placeholder stands directly between parentheses is
spread over one number for each member, and an empty one becomes `NULL`. When the
values run out the remaining question marks stay.
-/

namespace SqlCondition.Placeholder

/-- The characters that open a quoted span. -/
def isQuote (character : Char) : Bool :=
  character = '"' || character = '\x60' || character = '\''

/-- The quote that is open after one more character. -/
def step : Option Char → Char → Option Char
  | some quote, character => if character = quote then none else some quote
  | none, character => if isQuote character then some character else none

/-- Whether a character is a placeholder, given the quote that is open before it. -/
def isMark : Option Char → Char → Bool
  | some _, _ => false
  | none, character => character = '?'

/-- The number of placeholders, given the quote that is open at the front. -/
def countFrom : Option Char → List Char → Nat
  | _, [] => 0
  | quote, character :: rest =>
      (if isMark quote character then 1 else 0) + countFrom (step quote character) rest

/-- The number of placeholders of a text. -/
def count (sql : String) : Nat := countFrom none sql.toList

/-- The parameters that a value provides at a placeholder. -/
def parameters (parenthesized : Bool) : Value → List Value
  | .list items => if parenthesized then items else [.list items]
  | other => [other]

/-- The names of consecutive parameters after so many earlier ones. -/
def names (earlier amount : Nat) : List String :=
  (List.range' (earlier + 1) amount).map fun number => String.ofList ('$' :: Text.decimal number)

/-- The text that stands for several parameters after so many earlier ones. -/
def rendering (earlier amount : Nat) : String :=
  if amount = 0 then "NULL" else Text.join ", " (names earlier amount)

/-- Number the placeholders of a text, given the quote that is open at the front,
the character before it, the number of earlier parameters and the values that are
still to be used. -/
def numberFrom (quote previous : Option Char) (earlier : Nat) (values : List Value) :
    List Char → List Char × List Value
  | [] => ([], [])
  | character :: rest =>
      if isMark quote character then
        match values with
        | [] =>
            let later := numberFrom none (some character) earlier [] rest
            (character :: later.1, later.2)
        | value :: others =>
            let parenthesized := previous = some '(' && rest.head? = some ')'
            let bound := parameters parenthesized value
            let later := numberFrom none (some character) (earlier + bound.length) others rest
            ((rendering earlier bound.length).toList ++ later.1, bound ++ later.2)
      else
        let later := numberFrom (step quote character) (some character) earlier values rest
        (character :: later.1, later.2)

/-- Number the placeholders of a text with values, after so many earlier
parameters. Numbers are natural numbers and never overflow. Where they are machine
words the same is written as long as the greatest of them, which is the sum of the
earlier parameters and of those that the values provide, is a word. -/
def number (sql : String) (values : List Value) (earlier : Nat) : Clause :=
  let numbered := numberFrom none none earlier values sql.toList
  ⟨String.ofList numbered.1, numbered.2⟩

/-- Counting walks over a text piece by piece, with the quote that the first piece leaves open. -/
theorem count_from_append (quote : Option Char) (front back : List Char) :
    countFrom quote (front ++ back) =
      countFrom quote front + countFrom (front.foldl step quote) back := by
  induction front generalizing quote with
  | nil => simp [countFrom]
  | cons character rest inductionHypothesis =>
    simp only [List.cons_append, countFrom, inductionHypothesis, List.foldl_cons, Nat.add_assoc]

end SqlCondition.Placeholder

namespace SqlCondition.Clause

/-- The clause with its placeholders numbered after so many earlier parameters. As for
a text, machine words agree with this up to the greatest word, which has to hold the
sum of the earlier parameters and of the clause's own. -/
def numbered (clause : Clause) (earlier : Nat) : Clause :=
  Placeholder.number clause.sql clause.values earlier

end SqlCondition.Clause
