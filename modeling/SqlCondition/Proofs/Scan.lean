import SqlCondition.Clause.Placeholder

/-!
# Scanning a text piece by piece

A scan passes over a text from the left and remembers which quote is open. Outside
quoted spans it counts placeholders and follows parentheses. Every scan of a text
that is put together from pieces is the scan of the first piece, continued with the
quote that is open after it.

A piece is neutral when it leaves every scan as it found it: no quote stays open,
every parenthesis it opens is closed again and none is closed that was not opened.
Neutral pieces stay neutral one after another and between fixed texts that match.
-/

namespace SqlCondition.Placeholder

/-- The quote that is open after a text. -/
def quoteAfter (quote : Option Char) (text : List Char) : Option Char := text.foldl step quote

/-- The parentheses that are open after one more character; none when it closes one
that was not opened. Quoted characters do not count. -/
def nestStep (quote : Option Char) (nested : Nat) (character : Char) : Option Nat :=
  if quote.isSome then some nested
  else if character = '(' then some (nested + 1)
  else if character = ')' then (if nested = 0 then none else some (nested - 1))
  else some nested

/-- The parentheses that are open after a text. -/
def nestFrom (quote : Option Char) (nested : Nat) : List Char → Option Nat
  | [] => some nested
  | character :: rest =>
      (nestStep quote nested character).bind fun after => nestFrom (step quote character) after rest

/-- No quoted span is open at the end of the text. -/
def Closed (sql : String) : Prop := quoteAfter none sql.toList = none

/-- Outside quoted spans no parenthesis is closed before it is opened, and none
stays open. -/
def Balanced (sql : String) : Prop := nestFrom none 0 sql.toList = some 0

instance (sql : String) : Decidable (Closed sql) := inferInstanceAs (Decidable (_ = _))

instance (sql : String) : Decidable (Balanced sql) := inferInstanceAs (Decidable (_ = _))

/-- The scan of a text that is put together continues behind the first piece, with the quote
that is open there. -/
theorem quote_after_append (quote : Option Char) (front back : List Char) :
    quoteAfter quote (front ++ back) = quoteAfter (quoteAfter quote front) back :=
  List.foldl_append

/-- So do the parentheses, with those that the first piece leaves open, unless it closes one too
many. -/
theorem nest_from_append (quote : Option Char) (nested : Nat) (front back : List Char) :
    nestFrom quote nested (front ++ back) =
      (nestFrom quote nested front).bind fun after =>
        nestFrom (quoteAfter quote front) after back := by
  induction front generalizing quote nested with
  | nil => rfl
  | cons character rest inductionHypothesis =>
    simp only [List.cons_append, nestFrom, Option.bind_assoc]
    congr 1
    funext after
    exact inductionHypothesis (step quote character) after

/-- The placeholders of two pieces are those of the first and those behind it. Which characters
of the second are quoted is up to the first. -/
theorem count_append (quote : Option Char) (front back : List Char) :
    countFrom quote (front ++ back) =
      countFrom quote front + countFrom (quoteAfter quote front) back :=
  count_from_append quote front back

/-- One character treats parentheses that are open further out as if they were not there, so
long as it does not close more than are open inside. -/
theorem nest_step_add (quote : Option Char) (nested after outer : Nat) (character : Char)
    (passed : nestStep quote nested character = some after) :
    nestStep quote (nested + outer) character = some (after + outer) := by
  unfold nestStep at passed ⊢
  split at passed
  · simp_all
  · rename_i unquoted
    simp only [unquoted]
    split at passed
    · simp_all
      omega
    · split at passed
      · split at passed
        · simp at passed
        · simp_all
          omega
      · simp_all

/-- So does a text, by induction over its characters. -/
theorem nest_from_add (quote : Option Char) (nested after outer : Nat) (text : List Char)
    (passed : nestFrom quote nested text = some after) :
    nestFrom quote (nested + outer) text = some (after + outer) := by
  induction text generalizing quote nested with
  | nil =>
    have same : nested = after := by simpa [nestFrom] using passed
    exact same ▸ rfl
  | cons character rest inductionHypothesis =>
    obtain ⟨between, stepped, continued⟩ := Option.bind_eq_some_iff.mp passed
    have stepped : nestStep quote (nested + outer) character = some (between + outer) :=
      nest_step_add quote nested between outer character stepped
    simp only [nestFrom, stepped, Option.bind_some]
    exact inductionHypothesis (step quote character) between continued

/-- A text that leaves no quote and no parenthesis open and holds so many
placeholders. -/
structure Neutral (text : List Char) (marks : Nat) : Prop where
  closed : quoteAfter none text = none
  balanced : nestFrom none 0 text = some 0
  counted : countFrom none text = marks

namespace Neutral

/-- A neutral text may stand inside any number of parentheses, and leaves as many open as it
found. -/
theorem nested {text : List Char} {marks : Nat} (neutral : Neutral text marks) (outer : Nat) :
    nestFrom none outer text = some outer := by
  have passed := nest_from_add none 0 0 outer text neutral.balanced
  simpa only [Nat.zero_add] using passed

/-- Fixed texts around a neutral one: the first may open parentheses which the
second closes. -/
theorem between {text : List Char} {marks more opened : Nat} (neutral : Neutral text marks)
    (front back : List Char) (frontClosed : quoteAfter none front = none)
    (frontOpens : nestFrom none 0 front = some opened) (frontUnmarked : countFrom none front = 0)
    (backClosed : quoteAfter none back = none) (backCloses : nestFrom none opened back = some 0)
    (backMarks : countFrom none back = more) : Neutral (front ++ text ++ back) (marks + more) where
  closed := by
    simp only [quote_after_append, frontClosed, neutral.closed, backClosed]
  balanced := by
    simp only [nest_from_append, frontOpens, Option.bind_some, frontClosed, neutral.nested opened,
      quote_after_append, neutral.closed, backCloses]
  counted := by
    simp only [count_append, quote_after_append, frontClosed, neutral.closed, frontUnmarked,
      neutral.counted, backMarks, Nat.zero_add]

/-- Neutral texts one after another make a neutral text with the placeholders of both. -/
theorem append {front back : List Char} {marks more : Nat} (first : Neutral front marks)
    (second : Neutral back more) : Neutral (front ++ back) (marks + more) :=
  first.between [] back rfl rfl rfl second.closed second.balanced second.counted

end Neutral

end SqlCondition.Placeholder
