import SqlCondition.Options
import SqlCondition.Proofs.Scan

/-!
# Column names under a scan

A name in enclosing marks is neutral, whatever characters it has. Inside the marks
nothing counts; the doubled mark closes the span and opens it at once, and so does
the dot between two identifiers. The name of a column is one such text, or two with
a dot between them when a table is put in front.
-/

namespace SqlCondition

namespace Placeholder

/-- A text that a scan inside a quoted span passes without effect, back in the same
span at its end. -/
structure Inert (mark : Char) (text : List Char) : Prop where
  closed : quoteAfter (some mark) text = some mark
  balanced : ∀ nested, nestFrom (some mark) nested text = some nested
  counted : countFrom (some mark) text = 0

namespace Inert

/-- Nothing has no effect, inside any span. -/
theorem nil (mark : Char) : Inert mark [] := ⟨rfl, fun _ => rfl, rfl⟩

/-- Inert texts one after another are inert: the second one begins in the span in which the
first one ends. -/
theorem append {mark : Char} {front back : List Char} (first : Inert mark front)
    (second : Inert mark back) : Inert mark (front ++ back) where
  closed := by rw [quote_after_append, first.closed, second.closed]
  balanced := by
    intro nested
    rw [nest_from_append, first.balanced, first.closed]
    exact second.balanced nested
  counted := by
    rw [count_append, first.counted, first.closed, second.counted]

/-- A text made of inert texts is inert, however many there are. -/
theorem flat_map {α : Type} {mark : Char} {write : α → List Char}
    (each : ∀ part, Inert mark (write part)) (parts : List α) :
    Inert mark (parts.flatMap write) := by
  induction parts with
  | nil => exact nil mark
  | cons part rest inductionHypothesis => exact (each part).append inductionHypothesis

/-- Between its marks an inert text is neutral. The first mark opens the span in which it has no
effect, and the second one closes it. -/
theorem enclosed {mark : Char} {text : List Char} (inert : Inert mark text)
    (opens : isQuote mark = true) : Neutral (mark :: text ++ [mark]) 0 := by
  have different : mark ≠ '?' ∧ mark ≠ '(' ∧ mark ≠ ')' := by
    refine ⟨?_, ?_, ?_⟩ <;> rintro rfl <;> exact absurd opens (by decide)
  have entered : step none mark = some mark := by simp [step, opens]
  have left : step (some mark) mark = none := by simp [step]
  have opened : nestFrom none 0 (mark :: text) = some 0 := by
    simp [nestFrom, nestStep, different, entered, inert.balanced]
  have inside : quoteAfter none (mark :: text) = some mark := by
    simp only [quoteAfter, List.foldl_cons, entered]
    exact inert.closed
  refine ⟨?_, ?_, ?_⟩
  · rw [quote_after_append, inside]
    exact left
  · rw [nest_from_append, opened, inside]
    simp [nestFrom, nestStep]
  · rw [count_append, inside]
    simp [countFrom, isMark, different, entered, inert.counted]

end Inert

end Placeholder

namespace Dialect

open Placeholder

/-- The enclosing mark of a dialect opens a quoted span, whichever the dialect is. -/
theorem is_quote_mark (dialect : Dialect) : isQuote dialect.quoteMark = true := by
  cases dialect <;> decide

/-- What a character of a name becomes has no effect on a scan inside the marks. A
mark is left and entered again; what stands between two identifiers is a dot. -/
theorem inert_quoted_character (mark character : Char) (opens : isQuote mark = true) :
    Inert mark (quotedCharacter mark character) := by
  have notMark : mark ≠ '?' := by
    rintro rfl
    exact absurd opens (by decide)
  have notParentheses : mark ≠ '(' ∧ mark ≠ ')' := by
    constructor <;> rintro rfl <;> exact absurd opens (by decide)
  have dotQuote : isQuote '.' = false := by decide
  unfold quotedCharacter
  split
  · refine ⟨?_, ?_, ?_⟩
    · simp [quoteAfter, step, opens]
    · simp [nestFrom, nestStep, step, notParentheses]
    · simp [countFrom, isMark, step, notMark]
  · rename_i different
    split
    · refine ⟨?_, ?_, ?_⟩
      · simp [quoteAfter, step, dotQuote, opens]
      · intro nested
        simp [nestFrom, nestStep, step, notParentheses, dotQuote]
      · simp [countFrom, isMark, step, notMark, dotQuote]
    · refine ⟨?_, ?_, ?_⟩
      · simp [quoteAfter, step, different]
      · simp [nestFrom, nestStep]
      · simp [countFrom, isMark]

/-- A name in enclosing marks is neutral, whatever characters it has. -/
theorem neutral_quote_identifier (dialect : Dialect) (name : String) :
    Neutral (dialect.quoteIdentifier name).toList 0 := by
  rw [quoteIdentifier, String.toList_ofList]
  have opens : isQuote dialect.quoteMark = true := dialect.is_quote_mark
  have inert := Inert.flat_map (fun character =>
    inert_quoted_character dialect.quoteMark character opens) (visible name.toList)
  exact inert.enclosed opens

/-- A name in enclosing marks begins with one, even when the name is empty. -/
theorem head_quote_identifier (dialect : Dialect) (name : String) :
    (dialect.quoteIdentifier name).toList.head? = some dialect.quoteMark := by
  simp [quoteIdentifier, quoteChars]

end Dialect

namespace Options

open Placeholder

/-- The name of a column is neutral: no alias, table or name can open a quote or a
parenthesis in it that stays open, or smuggle in a placeholder. -/
theorem neutral_column (options : Options) (name : String) :
    Neutral (options.column name).toList 0 := by
  unfold column
  cases options.table with
  | none => exact options.dialect.neutral_quote_identifier _
  | some table =>
    dsimp only
    split
    · exact options.dialect.neutral_quote_identifier _
    · have dot : Neutral ".".toList 0 := ⟨by decide, by decide, by decide⟩
      rw [String.toList_append, String.toList_append]
      exact ((options.dialect.neutral_quote_identifier table).append dot).append
        (options.dialect.neutral_quote_identifier _)

/-- The name of a column begins with an enclosing mark, its own or that of the table in front of
it. -/
theorem head_column (options : Options) (name : String) :
    (options.column name).toList.head? = some options.dialect.quoteMark := by
  unfold column
  cases options.table with
  | none => exact options.dialect.head_quote_identifier _
  | some table =>
    dsimp only
    split
    · exact options.dialect.head_quote_identifier _
    · rw [String.toList_append, String.toList_append, List.append_assoc, List.head?_append,
        options.dialect.head_quote_identifier, Option.some_or]

end Options

end SqlCondition
