import SqlCondition.Operator.Basic

/-!
# Templates are filled at once

A template is a row of pieces: texts, places for the symbol and places for the column, and in
each place stands a mark in braces. It is filled in two passes, first with the symbol and then
with the column, and each pass goes over the whole text. Still every mark gives way to its own
text and to nothing else, as if all places had been taken at once.

An occurrence of a mark begins with an opening brace. No text of a template has one, nor has the
symbol, and the two marks part right behind it. So the first pass meets the marks of the symbol
and no others, and the second one those of the column. What takes the column's places may have
any braces and marks in it, since no pass comes after it.
-/

namespace SqlCondition

namespace Text

/-- No occurrence of the pattern begins in the text, whatever follows it: the text is left as
it is, and behind it all begins anew. -/
def Passed (pattern text : List Char) : Prop :=
  ∀ replacement rest, replaceFrom pattern replacement 0 (text ++ rest) =
    text ++ replaceFrom pattern replacement 0 rest

/-- Passing over a text comes to what follows it, and nothing is written on the way. -/
theorem replace_from_skipped (pattern replacement skipped rest : List Char) :
    replaceFrom pattern replacement skipped.length (skipped ++ rest) =
      replaceFrom pattern replacement 0 rest := by
  induction skipped with
  | nil => rfl
  | cons character skipped inductionHypothesis => exact inductionHypothesis

/-- The pattern at the front is replaced, and the search goes on behind it. -/
theorem replace_from_occurrence {pattern : List Char} (occupied : pattern ≠ [])
    (replacement rest : List Char) :
    replaceFrom pattern replacement 0 (pattern ++ rest) =
      replacement ++ replaceFrom pattern replacement 0 rest := by
  cases pattern with
  | nil => exact absurd rfl occupied
  | cons first behind =>
    have occurs : (first :: behind).isPrefixOf (first :: (behind ++ rest)) = true :=
      List.isPrefixOf_iff_prefix.mpr (List.prefix_append (first :: behind) rest)
    have beyond := replace_from_skipped (first :: behind) replacement behind rest
    rw [List.cons_append, replaceFrom, if_pos occurs, List.length_cons, Nat.add_sub_cancel, beyond]

/-- A character at which the pattern does not begin is passed with the text behind it, if that
text is passed. -/
theorem Passed.cons {pattern text : List Char} {character : Char}
    (elsewhere : ∀ rest, pattern.isPrefixOf (character :: (text ++ rest)) = false)
    (passed : Passed pattern text) : Passed pattern (character :: text) := by
  intro replacement rest
  have kept := Bool.eq_false_iff.mp (elsewhere rest)
  rw [List.cons_append, replaceFrom, if_neg kept, passed, List.cons_append]

/-- A text without the first character of the pattern is passed, since every occurrence begins
with that character. -/
theorem passed_of_not_mem {first : Char} {behind text : List Char} (absent : first ∉ text) :
    Passed (first :: behind) text := by
  induction text with
  | nil => exact fun _ _ => rfl
  | cons character rest inductionHypothesis =>
    obtain ⟨different, absentBehind⟩ := List.ne_and_not_mem_of_not_mem_cons absent
    refine (inductionHypothesis absentBehind).cons fun after => ?_
    simp [List.isPrefixOf, different]

/-- In a row of parts, each the pattern or passed in the search for it, replacing is done part
by part. -/
theorem replace_from_parts {α : Type} {pattern replacement : List Char}
    {write rewritten : α → List Char} (occupied : pattern ≠ [])
    (each : ∀ part, write part = pattern ∧ rewritten part = replacement ∨
      Passed pattern (write part) ∧ rewritten part = write part) (parts : List α) :
    replaceFrom pattern replacement 0 (parts.flatMap write) = parts.flatMap rewritten := by
  induction parts with
  | nil => rfl
  | cons part rest inductionHypothesis =>
    rw [List.flatMap_cons, List.flatMap_cons]
    rcases each part with ⟨occurs, replaced⟩ | ⟨passed, kept⟩
    · rw [occurs, replace_from_occurrence occupied, inductionHypothesis, replaced]
    · rw [passed, inductionHypothesis, kept]

end Text

namespace Operator

/-- A text without an opening brace, as every text without braces is. -/
def Unopened (text : String) : Prop := '\x7b' ∉ text.toList

instance (text : String) : Decidable (Unopened text) := inferInstanceAs (Decidable (¬ _))

/-- A piece of a template: a text of its own, or a place. -/
inductive Piece
  | literal (text : String) (unopened : Unopened text)
  | symbol
  | column

/-- A piece, with texts in the places of symbol and column. -/
def Piece.spelled (symbol column : String) : Piece → List Char
  | .literal text _ => text.toList
  | .symbol => symbol.toList
  | .column => column.toList

/-- A row of pieces, with texts in all places of symbol and column. -/
def spell (pieces : List Piece) (symbol column : String) : String :=
  String.ofList (pieces.flatMap (Piece.spelled symbol column))

/-- The template made of a row of pieces: each place has its mark. -/
def templateOf (pieces : List Piece) : String := spell pieces symbolMark columnMark

/-- A text without an opening brace is passed in the search for either mark. Both begin with
one. -/
theorem passed_of_unopened {text : String} (unopened : Unopened text) :
    Text.Passed symbolMark.toList text.toList ∧ Text.Passed columnMark.toList text.toList :=
  ⟨Text.passed_of_not_mem unopened, Text.passed_of_not_mem unopened⟩

/-- The mark of the column is passed in the search for the symbol's: they part behind the brace,
and there is no other brace to begin at. -/
theorem column_mark_passed : Text.Passed symbolMark.toList columnMark.toList :=
  .cons (fun _ => rfl) (Text.passed_of_not_mem (by decide))

/-- Filling a template takes all its places at once. The first pass takes those of the symbol
and passes everything else; the second one finds the marks of the column where they were. -/
theorem fill_template_of (pieces : List Piece) {symbol : String} (unopened : Unopened symbol)
    (column : String) : fill (templateOf pieces) symbol column = spell pieces symbol column := by
  have symbols : Text.replaceFrom symbolMark.toList symbol.toList 0
      (pieces.flatMap (Piece.spelled symbolMark columnMark)) =
        pieces.flatMap (Piece.spelled symbol columnMark) := by
    refine Text.replace_from_parts (by decide) (fun piece => ?_) pieces
    cases piece with
    | literal text own => exact .inr ⟨(passed_of_unopened own).1, rfl⟩
    | symbol => exact .inl ⟨rfl, rfl⟩
    | column => exact .inr ⟨column_mark_passed, rfl⟩
  -- In its places the symbol is now passed like a text of the template.
  have columns : Text.replaceFrom columnMark.toList column.toList 0
      (pieces.flatMap (Piece.spelled symbol columnMark)) =
        pieces.flatMap (Piece.spelled symbol column) := by
    refine Text.replace_from_parts (by decide) (fun piece => ?_) pieces
    cases piece with
    | literal text own => exact .inr ⟨(passed_of_unopened own).2, rfl⟩
    | symbol => exact .inr ⟨(passed_of_unopened unopened).2, rfl⟩
    | column => exact .inl ⟨rfl, rfl⟩
  rw [fill, Text.replace, Text.replace, String.toList_ofList, templateOf, spell,
    String.toList_ofList, symbols, columns, spell]

/-- An operator that fills a template writes its pieces with the symbol in the places of the
symbol and the column, whatever characters and marks it has, in the places of the column, and
binds its one value. The symbol must not have an opening brace.

Each pass is followed along the row of pieces. A piece is the mark that is looked for, or it has
no occurrence beginning in it, and the pass goes on behind it as if it began there. -/
theorem places_taken_at_once (operator : Operator) (pieces : List Piece) (column : String)
    (value : Value) (options : Options) (templated : operator.builder = none)
    (template : operator.template.getD defaultTemplate = templateOf pieces)
    (unopened : Unopened (operator.symbol.getD defaultSymbol)) :
    operator.build column value options =
      ⟨spell pieces (operator.symbol.getD defaultSymbol) column, [operator.bound value]⟩ := by
  rw [build, templated, template, fill_template_of pieces unopened column]

/-- An operator whose template has every mark twice, side by side too. -/
def repeating : Operator :=
  (ofSymbol "~").withTemplate
    "\x7bcolumn\x7d\x7boperator\x7d? OR \x7bcolumn\x7d \x7boperator\x7d\x7bcolumn\x7d"

/-- The pieces of that template. -/
def repeatingPieces : List Piece :=
  [.column, .symbol, .literal "? OR " (by decide), .column, .literal " " (by decide), .symbol,
    .column]

/-- A column that consists of marks and a lone brace stays as it is, in each of its places and
beside those of the symbol. -/
theorem marks_in_column_stay :
    repeating.builder = none ∧
      repeating.template.getD defaultTemplate = templateOf repeatingPieces ∧
      Unopened (repeating.symbol.getD defaultSymbol) ∧
      (repeating.build "\x7boperator\x7d\x7bcolumn\x7d\x7b" .null Options.default).sql =
        "\x7boperator\x7d\x7bcolumn\x7d\x7b~? OR \x7boperator\x7d\x7bcolumn\x7d\x7b " ++
          "~\x7boperator\x7d\x7bcolumn\x7d\x7b" := by
  have template : repeating.template.getD defaultTemplate = templateOf repeatingPieces := by decide
  have unopened : Unopened (repeating.symbol.getD defaultSymbol) := by decide
  have built := places_taken_at_once repeating repeatingPieces
    "\x7boperator\x7d\x7bcolumn\x7d\x7b" .null Options.default rfl template unopened
  refine ⟨rfl, template, unopened, ?_⟩
  rw [built]
  decide

/-- A symbol with braces is looked at again. -/
example : fill symbolMark columnMark "x" = "x" := by decide

end Operator

end SqlCondition
