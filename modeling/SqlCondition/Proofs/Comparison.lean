import Mathlib.Algebra.GroupWithZero.Nat
import SqlCondition.Proofs.Form
import SqlCondition.Proofs.Grouping
import SqlCondition.Proofs.Identifier

/-!
# Built-in comparisons keep together

What a built-in operator writes is read as one comparison, whatever the column and the
value. The name of a column is a row of quoted spans with dots between, in which no word
and no parenthesis counts; the texts around it are listed, and what they open and close is
decided on that list.

The pieces of a text hold all of its placeholders and no others. This is why a comparison
gets the values that its operator binds.
-/

namespace SqlCondition

open Placeholder

namespace Lexeme

/-- A piece that leaves no quote open. -/
def Whole (piece : Lexeme) : Prop := Closed piece.text

/-- The placeholders of a piece. -/
def marks (piece : Lexeme) : Nat := count piece.text

end Lexeme

namespace Scanner

/-- What the scanner has read of the piece that it is in. -/
def pending : Scanner → List Char
  | .between _ => []
  | .word letters => letters
  | .quoted _ characters => characters
  | .closed _ characters => characters

/-- The quote in which the scanner is. -/
def quote? : Scanner → Option Char
  | .quoted quote _ => some quote.val
  | _ => none

/-- The quote is the one that is open after the piece so far, which has no placeholder. -/
structure Sound (scanner : Scanner) : Prop where
  within : quoteAfter none scanner.pending = scanner.quote?
  unmarked : countFrom none scanner.pending = 0

/-- What one step from a quote does: the scanner comes to the quote in which a scan for
placeholders is, and it emits whole pieces with the placeholder that was read, if any. -/
structure Steps (quote : Option Char) (character : Char) (after : Scanner × List Lexeme) :
    Prop where
  sound : after.1.Sound
  within : after.1.quote? = Placeholder.step quote character
  whole : ∀ piece ∈ after.2, piece.Whole
  marked : (if isMark quote character then 1 else 0) = (after.2.map Lexeme.marks).sum

/-- No quote is the sign of a placeholder, so a character that opens a span is never counted. -/
theorem quote_ne_question {character : Char} (quotes : isQuote character = true) :
    character ≠ '?' := by
  rintro rfl
  exact absurd quotes (by decide)

/-- A letter is neither a quote nor the sign of a placeholder, so words are passed by both scans
without effect. -/
theorem letter_plain {character : Char} (letter : isLetter character = true) :
    isQuote character = false ∧ character ≠ '?' := by
  constructor
  · apply Bool.eq_false_iff.mpr
    intro quotes
    simp only [isQuote, Bool.or_eq_true, decide_eq_true_eq] at quotes
    rcases quotes with (rfl | rfl) | rfl <;> exact absurd letter (by decide)
  · rintro rfl
    exact absurd letter (by decide)

/-- A character that goes on with a piece takes one sound step. No piece is finished, and the
character is neither a placeholder nor hidden from one scan and open to the other. -/
theorem Sound.extended {scanner after : Scanner} {character : Char} (sound : scanner.Sound)
    (grown : after.pending = scanner.pending ++ [character])
    (within : after.quote? = Placeholder.step scanner.quote? character)
    (unmarked : isMark scanner.quote? character = false) :
    Steps scanner.quote? character (after, []) where
  sound := by
    constructor
    · rw [grown, quote_after_append, sound.within, within]
      rfl
    · rw [grown, count_append, sound.unmarked, sound.within]
      simp [countFrom, unmarked]
  within := within
  whole := by simp
  marked := by simp [unmarked]

/-- Something new begins soundly, whatever the character is: a span, a word, a blank, or a sign
of its own, which is the only one that may be a placeholder. -/
theorem begin_steps (character : Char) : Steps none character (begin character) := by
  have fresh : (Scanner.between none).Sound := ⟨rfl, rfl⟩
  unfold begin
  split
  · rename_i quotes
    refine fresh.extended rfl ?_ ?_
    · simp [quote?, Placeholder.step, quotes]
    · simp [isMark, quote?, quote_ne_question quotes]
  · rename_i unquoted
    have stays : Placeholder.step none character = none := by simp [Placeholder.step, unquoted]
    split
    · rename_i letter
      refine fresh.extended rfl stays.symm ?_
      simp [isMark, quote?, (letter_plain letter).2]
    · split
      · rename_i blank
        refine ⟨fresh, stays.symm, by simp, ?_⟩
        have unmarked : character ≠ '?' := by
          rintro rfl
          exact absurd blank (by decide)
        simp [isMark, unmarked]
      · refine ⟨⟨rfl, rfl⟩, stays.symm, ?_, ?_⟩
        · intro piece emitted
          cases List.mem_singleton.mp emitted
          simp [Lexeme.Whole, Closed, Lexeme.text, quoteAfter, stays]
        · simp [Lexeme.marks, count, Lexeme.text, countFrom]

/-- Behind a whole piece without placeholders something new begins as soundly. The finished
piece is emitted and adds no placeholder. -/
theorem begin_behind_steps {piece : Lexeme} (whole : piece.Whole) (unmarked : piece.marks = 0)
    (character : Char) : Steps none character (beginBehind piece character) := by
  have begun := begin_steps character
  exact ⟨begun.sound, begun.within, List.forall_mem_cons.mpr ⟨whole, begun.whole⟩, by
    simp [beginBehind, unmarked, begun.marked]⟩

/-- A word or a quoted span that was read soundly is whole, and has no placeholder in it. -/
theorem Sound.piece {scanner : Scanner} (sound : scanner.Sound) (outside : scanner.quote? = none)
    {piece : Lexeme} (written : piece.text.toList = scanner.pending) :
    piece.Whole ∧ piece.marks = 0 := by
  rw [Lexeme.Whole, Closed, Lexeme.marks, count, written]
  exact ⟨sound.within.trans outside, sound.unmarked⟩

/-- Every step is sound. The cases are those of the scanner: between pieces, in a word, in a
quoted span, and behind the mark that may have closed it. -/
theorem step_steps {scanner : Scanner} {character : Char} {after : Scanner × List Lexeme}
    (sound : scanner.Sound) (stepped : scanner.step character = some after) :
    Steps scanner.quote? character after := by
  cases scanner with
  | between half =>
    obtain ⟨_, begun⟩ := Option.ite_none_left_eq_some.mp stepped
    cases begun
    exact begin_steps character
  | word letters =>
    simp only [step] at stepped
    split at stepped
    · rename_i letter
      obtain ⟨unquoted, unmarked⟩ := letter_plain letter
      cases stepped
      exact sound.extended rfl (by simp [quote?, Placeholder.step, unquoted])
        (by simp [isMark, quote?, unmarked])
    · cases stepped
      obtain ⟨whole, unmarked⟩ : (Lexeme.word letters).Whole ∧ (Lexeme.word letters).marks = 0 :=
        sound.piece rfl String.toList_ofList
      exact begin_behind_steps whole unmarked character
  | quoted quote characters =>
    simp only [step] at stepped
    split at stepped
    · rename_i same
      cases stepped
      exact sound.extended rfl (by simp [quote?, Placeholder.step, same]) rfl
    · rename_i different
      cases stepped
      exact sound.extended rfl (by simp [quote?, Placeholder.step, different]) rfl
  | closed quote characters =>
    simp only [step] at stepped
    split at stepped
    · rename_i same
      cases stepped
      refine sound.extended rfl ?_ ?_
      · simp [quote?, Placeholder.step, same, quote.property]
      · simp [isMark, quote?, same, quote_ne_question quote.property]
    · cases stepped
      obtain ⟨whole, unmarked⟩ :
          (Lexeme.quoted characters).Whole ∧ (Lexeme.quoted characters).marks = 0 :=
        sound.piece rfl String.toList_ofList
      exact begin_behind_steps whole unmarked character

/-- Every end is sound: what was read last is whole, and no placeholder is lost with it. -/
theorem finish_sound {scanner : Scanner} {pieces : List Lexeme} (sound : scanner.Sound)
    (finished : scanner.finish = some pieces) :
    (∀ piece ∈ pieces, piece.Whole) ∧ (pieces.map Lexeme.marks).sum = 0 := by
  have single (piece : Lexeme) (own : piece.Whole ∧ piece.marks = 0) :
      (∀ other ∈ [piece], other.Whole) ∧ ([piece].map Lexeme.marks).sum = 0 :=
    ⟨List.forall_mem_singleton.mpr own.1, by simp [own.2]⟩
  cases scanner with
  | between half =>
    cases finished
    exact ⟨by simp, rfl⟩
  | word letters =>
    cases finished
    exact single _ (sound.piece rfl String.toList_ofList)
  | quoted quote characters => cases finished
  | closed quote characters =>
    cases finished
    exact single _ (sound.piece rfl String.toList_ofList)

/-- The pieces of a text are whole, and hold the placeholders that a scan counts. Each step adds
the placeholder it read, so the sum goes along with the count by induction over the text. -/
theorem run_sound {scanner : Scanner} {text : List Char} {pieces : List Lexeme}
    (sound : scanner.Sound) (read : machine.run scanner text = some pieces) :
    (∀ piece ∈ pieces, piece.Whole) ∧
      (pieces.map Lexeme.marks).sum = countFrom scanner.quote? text := by
  induction text generalizing scanner pieces with
  | nil => exact finish_sound sound read
  | cons character rest inductionHypothesis =>
    obtain ⟨after, stepped, continued⟩ := Option.bind_eq_some_iff.mp read
    obtain ⟨later, reached, rfl⟩ := Option.map_eq_some_iff.mp continued
    have steps := step_steps sound stepped
    obtain ⟨whole, marked⟩ := inductionHypothesis steps.sound reached
    refine ⟨List.forall_mem_append.mpr ⟨steps.whole, whole⟩, ?_⟩
    rw [List.map_append, List.sum_append, marked, steps.within, countFrom, ← steps.marked]

end Scanner

namespace Lexeme

/-- Whole pieces with blanks between them have the placeholders of each. No quote is open behind
a piece, and a blank opens none. -/
theorem count_join {pieces : List Lexeme} (whole : ∀ piece ∈ pieces, piece.Whole) :
    count (Text.join " " (pieces.map text)) = (pieces.map marks).sum := by
  induction pieces with
  | nil => rfl
  | cons piece rest inductionHypothesis =>
    obtain ⟨own, others⟩ := List.forall_mem_cons.mp whole
    cases rest with
    | nil => simp [Text.join, marks]
    | cons next more =>
      have later := inductionHypothesis others
      have blank : countFrom none " ".toList = 0 ∧ quoteAfter none " ".toList = none := by decide
      simp only [count, List.map_cons, Text.join, String.toList_append, count_append,
        quote_after_append] at later ⊢
      have closed : quoteAfter none piece.text.toList = none := own
      rw [closed, blank.1, blank.2, later]
      simp [marks, count]

/-- The pieces of a text, written with blanks between them, have its placeholders. So a
comparison that is read from pieces gets the values that were bound for the text. -/
theorem count_pieces {text : String} {pieces : List Lexeme}
    (found : ofText text.toList = some pieces) :
    count (Text.join " " (pieces.map Lexeme.text)) = count text := by
  obtain ⟨whole, marked⟩ := Scanner.run_sound ⟨rfl, rfl⟩ found
  rw [count_join whole, marked]
  rfl

end Lexeme

/-! ## The name of a column -/

namespace Scanner

/-- A segment is passed inside its marks, up to the mark that closes it. A doubled mark leaves
the span and enters it at once, by induction over the segment. -/
theorem run_segment {quote : Quote} {body segment : List Char}
    (read : Segment quote.val body segment) (front rest : List Char) :
    machine.run (.quoted quote front) (body ++ quote.val :: rest) =
      machine.run (.closed quote (front ++ body ++ [quote.val])) rest := by
  induction read generalizing front with
  | nil =>
    rw [List.append_nil]
    exact machine.run_silent (if_pos rfl)
  | @doubled body segment own inductionHypothesis =>
    have first : machine.step (.quoted quote front) quote.val =
        some (.closed quote (front ++ [quote.val]), []) := if_pos rfl
    have second : machine.step (.closed quote (front ++ [quote.val])) quote.val =
        some (.quoted quote (front ++ [quote.val] ++ [quote.val]), []) := if_pos rfl
    rw [List.cons_append, machine.run_silent first, List.cons_append, machine.run_silent second,
      inductionHypothesis]
    simp
  | @plain character body segment other own inductionHypothesis =>
    have first : machine.step (.quoted quote front) character =
        some (.quoted quote (front ++ [character]), []) := if_neg other
    rw [List.cons_append, machine.run_silent first, inductionHypothesis]
    simp

end Scanner

namespace Lexeme

/-- A piece of the name of a column. -/
inductive Naming : Lexeme → Prop
  | quoted (characters : List Char) : Naming (.quoted characters)
  | dot : Naming (.sign '.')

/-- The name of a column is taken apart into pieces of a name, of which the first is a quoted
span. Every segment gives one such span, and the dots between them are signs. -/
theorem of_text_identifier {quote : Quote} {text : List Char} {segments : List (List Char)}
    (identifier : Identifier quote.val text segments) :
    ∃ characters pieces, ofText text = some (.quoted characters :: pieces) ∧
      ∀ piece ∈ pieces, piece.Naming := by
  have opened : Scanner.machine.step (.between none) quote.val =
      some (.quoted quote [quote.val], []) := by
    have begun : Scanner.begin quote.val = (.quoted quote [quote.val], []) :=
      dif_pos quote.property
    simp [Scanner.machine, Scanner.step, Scanner.opensComment, begun]
  have dot : Scanner.machine.Divides '.' [.sign '.'] (.between none) :=
    Scanner.divides rfl rfl fun half => by simp [Scanner.opensComment]
  induction identifier with
  | @last body segment only =>
    refine ⟨quote.val :: body ++ [quote.val], [], ?_, by simp⟩
    rw [ofText, Scanner.machine.run_silent opened, Scanner.run_segment only]
    rfl
  | @dotted body segment rest segments first others inductionHypothesis =>
    obtain ⟨characters, pieces, found, naming⟩ := inductionHypothesis
    refine ⟨quote.val :: body ++ [quote.val], .sign '.' :: .quoted characters :: pieces, ?_, ?_⟩
    · rw [ofText, Scanner.machine.run_silent opened, Scanner.run_segment first]
      have ended : Scanner.machine.finish (.closed quote ([quote.val] ++ body ++ [quote.val])) =
          some [.quoted (quote.val :: body ++ [quote.val])] := rfl
      exact Scanner.machine.run_cons (dot _ _ ended) found
    · exact List.forall_mem_cons.mpr ⟨.dot, List.forall_mem_cons.mpr ⟨.quoted characters, naming⟩⟩

/-- A piece of a name is no token of its own, neither a connective nor a parenthesis, and so
begins a comparison. -/
theorem Naming.begins {piece : Lexeme} (naming : piece.Naming) : piece.token? = none := by
  cases naming <;> simp [token?, divider?, isWord]

/-- A piece of a name neither opens nor closes anything, and leaves what a comparison waits for
as it is. -/
theorem Naming.stays {piece : Lexeme} (naming : piece.Naming) (control : Nat × Bool) :
    Composer.stay control piece = some control := by
  obtain ⟨nested, ranging⟩ := control
  cases naming <;> simp [Composer.stay, opens, closes, divider?, isWord] <;> omega

end Lexeme

namespace Composer

/-- Pieces that stay within a comparison are read on, and become part of it. The control is
carried along, by induction over the pieces. -/
theorem run_within {pieces : List Lexeme} {control after : Nat × Bool}
    (stays : pieces.foldlM stay control = some after) (earlier : List Lexeme) :
    machine.run (.within earlier control.1 control.2) pieces =
      finish (.within (earlier ++ pieces) after.1 after.2) := by
  induction pieces generalizing control earlier with
  | nil =>
    cases stays
    rw [List.append_nil]
    rfl
  | cons piece rest inductionHypothesis =>
    rw [List.foldlM_cons] at stays
    obtain ⟨next, stayed, others⟩ := Option.bind_eq_some_iff.mp stays
    have stepped : machine.step (.within earlier control.1 control.2) piece =
        some (.within (earlier ++ [piece]) next.1 next.2, []) := by
      simp [machine, step, stayed]
    rw [machine.run_silent stepped, inductionHypothesis others, List.append_assoc]
    rfl

/-- The pieces of a name change nothing of what a comparison waits for, however many there are. -/
theorem foldlM_naming {pieces : List Lexeme} (naming : ∀ piece ∈ pieces, piece.Naming)
    (control : Nat × Bool) : pieces.foldlM stay control = some control := by
  induction pieces with
  | nil => rfl
  | cons piece rest inductionHypothesis =>
    obtain ⟨own, others⟩ := List.forall_mem_cons.mp naming
    rw [List.foldlM_cons, own.stays]
    exact inductionHypothesis others

/-- Pieces of which the first begins a comparison and all others stay within it, until
nothing is left open, are one atom. -/
theorem run_comparison {piece : Lexeme} {rest : List Lexeme} (begins : piece.token? = none)
    (stays : (piece :: rest).foldlM stay (0, false) = some (0, false)) :
    Token.ofLexemes (piece :: rest) =
      some [.atom (.ofText (Text.join " " ((piece :: rest).map Lexeme.text)))] := by
  rw [List.foldlM_cons] at stays
  obtain ⟨next, stayed, others⟩ := Option.bind_eq_some_iff.mp stays
  have stepped : machine.step .outside piece = some (.within [piece] next.1 next.2, []) := by
    simp [machine, step, begins, stayed]
  rw [Token.ofLexemes, machine.run_silent stepped, run_within others]
  rfl

end Composer

namespace Clause

/-- A clause whose pieces are one comparison is a single operand, when its values are as
many as its placeholders. -/
theorem undivided_of_comparison {clause : Clause} {piece : Lexeme} {rest : List Lexeme}
    (found : Lexeme.ofText clause.sql.toList = some (piece :: rest))
    (begins : piece.token? = none)
    (stays : (piece :: rest).foldlM Composer.stay (0, false) = some (0, false))
    (fits : clause.values.length = count clause.sql) : clause.Undivided := by
  have marks := Lexeme.count_pieces found
  have bound : Token.bind clause.values
      [.atom (.ofText (Text.join " " ((piece :: rest).map Lexeme.text)))] =
        some [.atom ⟨Text.join " " ((piece :: rest).map Lexeme.text), clause.values⟩] := by
    simp only [Token.bind, Token.clause?, of_text_sql, marks, ← fits, Nat.le_refl, if_true,
      List.drop_length, List.take_length, List.isEmpty_nil, Option.map_some]
  exact .inr ⟨_, ⟨_, tokens_eq_some_iff.mpr
    ⟨_, _, found, Composer.run_comparison begins stays, bound⟩, .single (.single (.atom _))⟩, rfl⟩

end Clause

namespace Form

open Lexeme Composer

/-- The first text ends where a name may begin, the second begins where one may end, and
what they open and close makes one comparison. -/
def Compares (form : Form) : Prop :=
  form.front ∈ ["", "LOWER(", "DATE("] ∧ form.back.toList.head? ∈ [some ' ', some ')'] ∧
    ((ofText form.front.toList).bind fun front => (ofText form.back.toList).bind fun back =>
      (front ++ back).foldlM stay (0, false)) = some (0, false)

instance (form : Form) : Decidable form.Compares := inferInstanceAs (Decidable (_ ∧ _ ∧ _))

/-- Every built-in form compares. There are finitely many of them, and the check of each is a
computation. -/
theorem builtin_compares : ∀ form ∈ builtin, form.Compares := by decide

/-- The first text of a form, with any text behind it, is taken apart into its own pieces and
those of the text. It is empty or ends with a parenthesis, so no piece goes across. -/
theorem of_text_front {front : String} (known : front ∈ ["", "LOWER(", "DATE("]) :
    ∃ pieces, ofText front.toList = some pieces ∧ (∀ piece ∈ pieces.head?, piece.token? = none) ∧
      ∀ text later, ofText text = some later →
        ofText (front.toList ++ text) = some (pieces ++ later) := by
  have opening (word : List Char) (piece : Lexeme) (own : ofText word = some [piece])
      (text : List Char) (later : List Lexeme) (found : ofText text = some later) :
      ofText (word ++ '(' :: text) = some ([piece] ++ .sign '(' :: later) :=
    of_text_append rfl rfl (fun half => by simp [Scanner.opensComment]) own (of_text_opening found)
  simp only [List.mem_cons, List.not_mem_nil, or_false] at known
  rcases known with rfl | rfl | rfl
  · exact ⟨[], rfl, by simp, fun text later found => found⟩
  · exact ⟨[.word ['L', 'O', 'W', 'E', 'R'], .sign '('], rfl, by decide,
      opening ['L', 'O', 'W', 'E', 'R'] _ rfl⟩
  · exact ⟨[.word ['D', 'A', 'T', 'E'], .sign '('], rfl, by decide,
      opening ['D', 'A', 'T', 'E'] _ rfl⟩

/-- The second text of a form, with any text in front of it, is taken apart by itself. It begins
with a blank or a parenthesis, where every piece of the text in front ends. -/
theorem of_text_back {back : List Char} (known : back.head? ∈ [some ' ', some ')'])
    {text : List Char} {first second : List Lexeme} (frontFound : ofText text = some first)
    (backFound : ofText back = some second) : ofText (text ++ back) = some (first ++ second) := by
  cases back with
  | nil => exact absurd known (by decide)
  | cons character rest =>
    simp only [List.head?_cons, List.mem_cons, Option.some_inj, List.not_mem_nil, or_false] at known
    rcases known with rfl | rfl <;>
      exact of_text_append rfl rfl (fun half => by simp [Scanner.opensComment]) frontFound backFound

/-- A form that compares is a single operand around the name of a column. The pieces of the
three texts are put together, and the name in the middle leaves the control alone. -/
theorem Compares.undivided {form : Form} (compares : form.Compares) {clause : Clause}
    {column : String} {quote : Quote} {segments : List (List Char)}
    (identifier : Identifier quote.val column.toList segments)
    (written : clause.sql = form.write column)
    (fits : clause.values.length = Placeholder.count clause.sql) : clause.Undivided := by
  obtain ⟨frontKnown, backKnown, nesting⟩ := compares
  obtain ⟨front, frontFound, begins, behind⟩ := of_text_front frontKnown
  rw [frontFound, Option.bind_some] at nesting
  obtain ⟨back, backFound, nested⟩ := Option.bind_eq_some_iff.mp nesting
  rw [List.foldlM_append] at nested
  obtain ⟨control, opened, closed⟩ := Option.bind_eq_some_iff.mp nested
  obtain ⟨characters, pieces, named, naming⟩ := of_text_identifier identifier
  have name : ∀ piece ∈ .quoted characters :: pieces, piece.Naming :=
    List.forall_mem_cons.mpr ⟨.quoted characters, naming⟩
  have found : ofText clause.sql.toList =
      some ((front ++ .quoted characters :: pieces) ++ back) := by
    rw [written, to_list_write]
    exact of_text_back backKnown (behind _ _ named) backFound
  have stays : ((front ++ .quoted characters :: pieces) ++ back).foldlM stay (0, false) =
      some (0, false) := by
    rw [List.foldlM_append, List.foldlM_append, opened]
    simp only [Option.bind_eq_bind, Option.bind_some, foldlM_naming name]
    exact closed
  cases front with
  | nil => exact Clause.undivided_of_comparison found (Naming.quoted characters).begins stays fits
  | cons piece rest => exact Clause.undivided_of_comparison found (begins piece rfl) stays fits

end Form

namespace Operator

/-- What a built-in operator writes for a column is a single operand, whatever column and value
are, because it keeps to a listed form and every listed form compares. -/
theorem IsBuiltin.undivided {operator : Operator} (builtin : operator.IsBuiltin)
    (options : Options) (name : String) (value : Value) :
    (operator.build (options.column name) value options).Undivided := by
  have quotes : isQuote options.dialect.quoteMark = true := options.dialect.is_quote_mark
  rcases build_formed operator builtin (options.column name) value options with
    nothing | ⟨form, listed, written, amount⟩
  · rw [nothing]
    exact .inl rfl
  · have neutral := (Form.builtin_fits form listed).neutral (options.neutral_column name)
    have identifier : Identifier (⟨_, quotes⟩ : Quote).val (options.column name).toList _ :=
      options.identifier_of_column name
    refine (Form.builtin_compares form listed).undivided identifier written ?_
    rw [written, amount]
    exact neutral.counted.symm

end Operator

end SqlCondition
