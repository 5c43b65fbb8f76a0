import SqlCondition.Clause.Placeholder
import SqlCondition.Proofs.Assembly
import SqlCondition.Proofs.Expression

/-!
# From text to tokens

The text of a clause is read from its characters alone. A scanner finds words, quoted
spans and single signs in it, and leaves blanks out. A gatherer then puts together what
belongs to one comparison, and tells the words AND, OR and NOT and the parentheses that
stand around comparisons from those within: the parentheses of a call or a list, the AND
of a range and the words of a case distinction are parts of the comparison. In the end
every comparison is given the values for its placeholders.

A text is not understood when it leaves a quoted span, a parenthesis of a comparison or a
range unfinished, has a comment, or has another number of placeholders than values.

Scanner and gatherer are machines that emit something at every step. An item at which a
machine finishes what it has and begins anew divides the input: what is in front of it is
read as if it were alone. A blank is such an item of the scanner, and a connective one of
the gatherer. So clauses with a connective between them have the tokens of each.
-/

namespace SqlCondition

/-- A machine that reads items one by one and emits something at every step and at the
end, as long as it understands them. -/
structure Machine (σ α β : Type) where
  step : σ → α → Option (σ × List β)
  finish : σ → Option (List β)

namespace Machine

variable {σ α β : Type} (machine : Machine σ α β)

/-- What a machine emits from a state on. -/
def run : σ → List α → Option (List β)
  | state, [] => machine.finish state
  | state, item :: rest =>
      (machine.step state item).bind fun after =>
        (run after.1 rest).map fun later => after.2 ++ later

/-- A run is its first step and the run behind it, and what they emit stands in this order. -/
theorem run_cons {state next : σ} {item : α} {rest : List α} {emitted later : List β}
    (stepped : machine.step state item = some (next, emitted))
    (continued : machine.run next rest = some later) :
    machine.run state (item :: rest) = some (emitted ++ later) := by
  rw [run, stepped, Option.bind_some, continued, Option.map_some]

/-- A step that emits nothing only changes the state, and the run goes on from there. -/
theorem run_silent {state next : σ} {item : α} {rest : List α}
    (stepped : machine.step state item = some (next, [])) :
    machine.run state (item :: rest) = machine.run next rest := by
  rw [run, stepped, Option.bind_some]
  exact Option.map_id_apply

/-- At this item the machine finishes what it has, emits something for the item, and goes
on from a state that does not depend on what it has read. -/
def Divides (item : α) (emitted : List β) (next : σ) : Prop :=
  ∀ state finished, machine.finish state = some finished →
    machine.step state item = some (next, finished ++ emitted)

/-- What is in front of a dividing item is read as if it were alone. The item ends whatever was
read last, and the run goes on behind it in a state that does not depend on the front. -/
theorem run_divided {item : α} {emitted : List β} {next : σ}
    (divides : machine.Divides item emitted next) (state : σ) (front back : List α)
    (first : List β) (found : machine.run state front = some first) :
    machine.run state (front ++ item :: back) =
      (machine.run next back).map fun later => first ++ emitted ++ later := by
  induction front generalizing state first with
  | nil => simp [run, divides state first found]
  | cons other rest inductionHypothesis =>
    obtain ⟨⟨between, early⟩, stepped, continued⟩ := Option.bind_eq_some_iff.mp found
    obtain ⟨late, reached, rfl⟩ := Option.map_eq_some_iff.mp continued
    simp only [List.cons_append, run, stepped, Option.bind_some,
      inductionHypothesis between late reached, Option.map_map]
    congr 1
    funext later
    simp

/-- A dividing item at the end is read behind everything in front of it, which is read as if it
were alone. -/
theorem run_ended {item : α} {emitted last : List β} {next : σ}
    (divides : machine.Divides item emitted next) (ends : machine.finish next = some last)
    {state : σ} {front : List α} {first : List β} (found : machine.run state front = some first) :
    machine.run state (front ++ [item]) = some (first ++ emitted ++ last) := by
  rw [run_divided machine divides state front [] first found]
  simp [run, ends]

end Machine

/-- A piece of a text. -/
inductive Lexeme
  | word (letters : List Char)
  /-- A quoted span with its quotes. -/
  | quoted (characters : List Char)
  | sign (character : Char)
  deriving DecidableEq

namespace Lexeme

/-- The characters of a piece. -/
def text : Lexeme → String
  | .word letters => String.ofList letters
  | .quoted characters => String.ofList characters
  | .sign character => String.ofList [character]

/-- Whether a piece is a certain word, in upper or lower case. -/
def isWord (spelling : String) : Lexeme → Bool
  | .word letters => letters.map Char.toUpper = spelling.toList
  | _ => false

end Lexeme

/-- A character that opens quoted spans. -/
abbrev Quote := { character : Char // Placeholder.isQuote character = true }

/-- Where a scan of a text is. -/
inductive Scanner
  /-- Outside words and quoted spans, perhaps behind the first half of a comment mark. -/
  | between (half : Option Char)
  | word (letters : List Char)
  | quoted (quote : Quote) (characters : List Char)
  /-- Behind a quoted span, which goes on when its quote is doubled. -/
  | closed (quote : Quote) (characters : List Char)

namespace Scanner

/-- The characters of words, among them all that are not ASCII. -/
def isLetter (character : Char) : Bool :=
  character.isAlphanum || character = '_' || character = '$' || 128 ≤ character.toNat

/-- The first half of a comment mark. -/
def half? (character : Char) : Option Char :=
  if character = '-' ∨ character = '/' then some character else none

/-- Whether a character is the other half of a comment mark. -/
def opensComment (half : Option Char) (character : Char) : Bool :=
  (half = some '-' && character = '-') || (half = some '/' && character = '*')

/-- Begin something new with a character. -/
def begin (character : Char) : Scanner × List Lexeme :=
  if quotes : Placeholder.isQuote character then (.quoted ⟨character, quotes⟩ [character], [])
  else if isLetter character then (.word [character], [])
  else if character.isWhitespace then (.between none, [])
  else (.between (half? character), [.sign character])

/-- Begin something new behind a piece. -/
def beginBehind (piece : Lexeme) (character : Char) : Scanner × List Lexeme :=
  ((begin character).1, piece :: (begin character).2)

/-- Read one character. -/
def step : Scanner → Char → Option (Scanner × List Lexeme)
  | .between half, character => if opensComment half character then none else some (begin character)
  | .word letters, character =>
      if isLetter character then some (.word (letters ++ [character]), [])
      else some (beginBehind (.word letters) character)
  | .quoted quote characters, character =>
      if character = quote.val then some (.closed quote (characters ++ [character]), [])
      else some (.quoted quote (characters ++ [character]), [])
  | .closed quote characters, character =>
      if character = quote.val then some (.quoted quote (characters ++ [character]), [])
      else some (beginBehind (.quoted characters) character)

/-- The end of the text, which must not be quoted. -/
def finish : Scanner → Option (List Lexeme)
  | .between _ => some []
  | .word letters => some [.word letters]
  | .quoted _ _ => none
  | .closed _ characters => some [.quoted characters]

/-- The scanner as a machine. -/
def machine : Machine Scanner Char Lexeme := ⟨step, finish⟩

/-- A character that is part of no word, quoted span or comment mark divides a text: it ends
whatever piece the scanner was in. -/
theorem divides {character : Char} (unquoted : Placeholder.isQuote character = false)
    (unspelled : isLetter character = false)
    (uncommented : ∀ half, opensComment half character = false) :
    machine.Divides character (begin character).2 (begin character).1 := by
  intro scanner finished ended
  cases scanner with
  | between half =>
    cases ended
    simp [machine, step, uncommented]
  | word letters =>
    cases ended
    simp [machine, step, unspelled, beginBehind]
  | quoted quote characters => cases ended
  | closed quote characters =>
    cases ended
    have another : character ≠ quote.val := by
      rintro rfl
      exact absurd quote.property (by simp [unquoted])
    simp [machine, step, another, beginBehind]

end Scanner

namespace Lexeme

/-- The pieces of a text. -/
def ofText (text : List Char) : Option (List Lexeme) := Scanner.machine.run (.between none) text

/-- A text in front of a dividing character is read as if it were alone, and what is behind,
with the character, as if it began there. -/
theorem of_text_append {character : Char} (unquoted : Placeholder.isQuote character = false)
    (unspelled : Scanner.isLetter character = false)
    (uncommented : ∀ half, Scanner.opensComment half character = false) {front back : List Char}
    {first second : List Lexeme} (frontFound : ofText front = some first)
    (backFound : ofText (character :: back) = some second) :
    ofText (front ++ character :: back) = some (first ++ second) := by
  have divides := Scanner.divides unquoted unspelled uncommented
  have begins : Scanner.machine.step (.between none) character =
      some (Scanner.begin character) := by
    simp [Scanner.machine, Scanner.step, uncommented]
  rw [ofText, Machine.run, begins, Option.bind_some] at backFound
  obtain ⟨later, reached, rfl⟩ := Option.map_eq_some_iff.mp backFound
  rw [ofText, Scanner.machine.run_divided divides (.between none) front back first frontFound,
    reached, Option.map_some, List.append_assoc]

/-- Texts with a blank between them have the pieces of each. The blank itself is none. -/
theorem of_text_blank {front back : List Char} {first second : List Lexeme}
    (frontFound : ofText front = some first) (backFound : ofText back = some second) :
    ofText (front ++ ' ' :: back) = some (first ++ second) := by
  have stepped : Scanner.machine.step (.between none) ' ' = some (.between none, []) := rfl
  exact of_text_append rfl rfl (fun half => by simp [Scanner.opensComment]) frontFound
    (Scanner.machine.run_cons stepped backFound)

/-- A parenthesis in front of a text is a piece of its own, in front of the pieces of the text. -/
theorem of_text_opening {text : List Char} {pieces : List Lexeme}
    (found : ofText text = some pieces) :
    ofText ('(' :: text) = some (.sign '(' :: pieces) := by
  have stepped : Scanner.machine.step (.between none) '(' =
      some (.between none, [.sign '(']) := rfl
  exact Scanner.machine.run_cons stepped found

/-- A parenthesis behind a text is a piece of its own, behind the pieces of the text. -/
theorem of_text_closing {text : List Char} {pieces : List Lexeme}
    (found : ofText text = some pieces) :
    ofText (text ++ [')']) = some (pieces ++ [.sign ')']) :=
  of_text_append rfl rfl (fun half => by simp [Scanner.opensComment]) found rfl

/-- The word for a connective. -/
def ofConnective : Connective → Lexeme
  | .and => .word ['A', 'N', 'D']
  | .or => .word ['O', 'R']

/-- Texts with a connective between them have the pieces of each, with the word of the
connective between. The blanks of its separator keep it apart. -/
theorem of_text_connective (connective : Connective) {front back : List Char}
    {first second : List Lexeme} (frontFound : ofText front = some first)
    (backFound : ofText back = some second) :
    ofText (front ++ connective.separator.toList ++ back) =
      some (first ++ ofConnective connective :: second) := by
  have word (letters : List Char) (single : ofText letters = some [ofConnective connective]) :
      ofText (front ++ ' ' :: (letters ++ ' ' :: back)) =
        some (first ++ ofConnective connective :: second) :=
    of_text_blank frontFound (of_text_blank single backFound)
  rw [List.append_assoc]
  cases connective with
  | and => exact word ['A', 'N', 'D'] rfl
  | or => exact word ['O', 'R'] rfl

/-- Whether a piece opens something within a comparison: parentheses, brackets, or a case
distinction. -/
def opens (lexeme : Lexeme) : Bool :=
  lexeme = .sign '(' || lexeme = .sign '[' || lexeme.isWord "CASE"

/-- Whether a piece ends what another one opens. -/
def closes (lexeme : Lexeme) : Bool :=
  lexeme = .sign ')' || lexeme = .sign ']' || lexeme.isWord "END"

/-- The token of a piece that ends a comparison. -/
def divider? (lexeme : Lexeme) : Option Token :=
  if lexeme = .sign ')' then some .closing
  else if lexeme.isWord "AND" then some .and
  else if lexeme.isWord "OR" then some .or
  else none

/-- The token of a piece that stands outside comparisons. -/
def token? (lexeme : Lexeme) : Option Token :=
  if lexeme = .sign '(' then some .opening
  else if lexeme.isWord "NOT" then some .not
  else lexeme.divider?

end Lexeme

/-- Where the composition of tokens is. -/
inductive Composer
  | outside
  /-- Within a comparison: its pieces so far, how many of them are open, and whether the
  AND of a range must follow. -/
  | within (pieces : List Lexeme) (nested : Nat) (ranging : Bool)

namespace Composer

/-- The comparison that ends here, in which nothing may be unfinished. -/
def finish : Composer → Option (List Token)
  | .outside => some []
  | .within pieces 0 false => some [.atom (.ofText (Text.join " " (pieces.map Lexeme.text)))]
  | _ => none

/-- How many pieces are open and whether a range waits behind one more piece of a
comparison; none when the piece does not belong to it. -/
def stay : Nat × Bool → Lexeme → Option (Nat × Bool)
  | (nested, ranging), lexeme =>
      if lexeme.opens then some (nested + 1, ranging)
      else if 0 < nested then some (if lexeme.closes then nested - 1 else nested, ranging)
      else if ranging && lexeme.isWord "AND" then some (0, false)
      else if lexeme.divider?.isSome then none
      else some (0, ranging || lexeme.isWord "BETWEEN")

/-- Read one piece. -/
def step : Composer → Lexeme → Option (Composer × List Token)
  | .outside, lexeme =>
      match lexeme.token? with
      | some token => some (.outside, [token])
      | none => (stay (0, false) lexeme).map fun after => (.within [lexeme] after.1 after.2, [])
  | .within pieces nested ranging, lexeme =>
      match stay (nested, ranging) lexeme with
      | some after => some (.within (pieces ++ [lexeme]) after.1 after.2, [])
      | none =>
          lexeme.divider?.bind fun token =>
            (finish (.within pieces nested ranging)).map fun finished =>
              (.outside, finished ++ [token])

/-- The composer as a machine. -/
def machine : Machine Composer Lexeme Token := ⟨step, finish⟩

/-- A piece that ends comparisons divides the pieces of a text, when it is met outside the
parentheses of a comparison. -/
theorem divides {lexeme : Lexeme} {token : Token} (divider : lexeme.divider? = some token)
    (outside : lexeme.token? = some token) (flat : lexeme.opens = false) :
    machine.Divides lexeme [token] .outside := by
  intro composer finished ended
  cases composer with
  | outside =>
    cases ended
    simp [machine, step, outside]
  | within pieces nested ranging =>
    cases nested with
    | succ nested => cases ended
    | zero =>
      cases ranging with
      | true => cases ended
      | false =>
        have same : finish (.within pieces 0 false) = some finished := ended
        simp [machine, step, stay, flat, divider, same]

end Composer

namespace Token

/-- The tokens of a row of pieces. -/
def ofLexemes (lexemes : List Lexeme) : Option (List Token) :=
  Composer.machine.run .outside lexemes

/-- Pieces with a connective between them have the tokens of each, for a connective ends the
comparison in front of it and begins none. -/
theorem of_lexemes_connective (connective : Connective) {front back : List Lexeme}
    {first second : List Token} (frontFound : ofLexemes front = some first)
    (backFound : ofLexemes back = some second) :
    ofLexemes (front ++ Lexeme.ofConnective connective :: back) =
      some (first ++ ofConnective connective :: second) := by
  have divides : Composer.machine.Divides (.ofConnective connective) [ofConnective connective]
      .outside := by
    cases connective <;> exact Composer.divides rfl rfl rfl
  have read := Composer.machine.run_divided divides .outside front back first frontFound
  simp only [ofLexemes] at backFound ⊢
  rw [read, backFound, Option.map_some, List.append_assoc]
  rfl

/-- Pieces in parentheses have the tokens of the pieces between parentheses, behind NOT
when the word is in front. -/
theorem of_lexemes_enclosed (negated : Bool) {lexemes : List Lexeme} {tokens : List Token}
    (found : ofLexemes lexemes = some tokens) :
    ofLexemes ((if negated then [.word ['N', 'O', 'T']] else []) ++
        .sign '(' :: (lexemes ++ [.sign ')'])) =
      some ((if negated then [.not] else []) ++ .opening :: (tokens ++ [.closing])) := by
  have divides : Composer.machine.Divides (.sign ')') [.closing] .outside :=
    Composer.divides rfl rfl rfl
  have read := Composer.machine.run_ended divides rfl found
  rw [List.append_nil] at read
  have opens : Composer.machine.step .outside (.sign '(') = some (.outside, [.opening]) := rfl
  have opposes : Composer.machine.step .outside (.word ['N', 'O', 'T']) =
      some (.outside, [.not]) := rfl
  have enclosed := Composer.machine.run_cons opens read
  cases negated with
  | false => exact enclosed
  | true => exact Composer.machine.run_cons opposes enclosed

/-- Give every atom of a row the values for its placeholders, until none is left. -/
def bind : List Value → List Token → Option (List Token)
  | values, [] => if values.isEmpty then some [] else none
  | values, token :: rest =>
      match token.clause? with
      | none => (bind values rest).map fun later => token :: later
      | some clause =>
          let amount := Placeholder.count clause.sql
          if amount ≤ values.length then
            (bind (values.drop amount) rest).map fun later =>
              .atom ⟨clause.sql, values.take amount⟩ :: later
          else none

/-- The values of two rows of tokens are those of the first and those of the second. Each
comparison takes as many as it has placeholders, so the first row takes its own. -/
theorem bind_append {values more : List Value} {front back first second : List Token}
    (frontBound : bind values front = some first) (backBound : bind more back = some second) :
    bind (values ++ more) (front ++ back) = some (first ++ second) := by
  induction front generalizing values first with
  | nil =>
    obtain ⟨none, same⟩ := Option.ite_none_right_eq_some.mp frontBound
    cases same
    rw [List.isEmpty_iff.mp none]
    exact backBound
  | cons token rest inductionHypothesis =>
    rw [List.cons_append, bind]
    rw [bind] at frontBound
    split at frontBound
    · obtain ⟨later, found, rfl⟩ := Option.map_eq_some_iff.mp frontBound
      rw [inductionHypothesis found]
      rfl
    · rename_i clause atom
      obtain ⟨enough, found⟩ := Option.ite_none_right_eq_some.mp frontBound
      obtain ⟨later, remaining, rfl⟩ := Option.map_eq_some_iff.mp found
      have more : Placeholder.count clause.sql ≤ (values ++ more).length := by
        rw [List.length_append]
        exact Nat.le_add_right_of_le enough
      simp only [more, if_true, List.drop_append_of_le_length enough,
        List.take_append_of_le_length enough, inductionHypothesis remaining]
      rfl

/-- Parentheses and words take no values; they are left to the tokens behind. -/
theorem bind_cons {token : Token} (word : token.clause? = none) {values : List Value}
    {tokens bound : List Token} (found : bind values tokens = some bound) :
    bind values (token :: tokens) = some (token :: bound) := by
  rw [bind, word, found]
  rfl

end Token

namespace Clause

/-- The tokens of a clause. -/
def tokens (clause : Clause) : Option (List Token) :=
  ((Lexeme.ofText clause.sql.toList).bind Token.ofLexemes).bind (Token.bind clause.values)

/-- Only the words outside comparisons and quoted spans divide a clause. -/
example :
    (Clause.mk "LOWER(\"a OR b\") IN (?) and not c BETWEEN ? AND ?"
        [.int 1, .int 2, .int 3]).tokens =
      some [.atom ⟨"LOWER ( \"a OR b\" ) IN ( ? )", [.int 1]⟩, .and, .not,
        .atom ⟨"c BETWEEN ? AND ?", [.int 2, .int 3]⟩] := rfl

/-- A clause has tokens when its text has pieces that make up tokens and its values are as
many as these have placeholders. -/
theorem tokens_eq_some_iff {clause : Clause} {tokens : List Token} :
    clause.tokens = some tokens ↔
      ∃ lexemes row, Lexeme.ofText clause.sql.toList = some lexemes ∧
        Token.ofLexemes lexemes = some row ∧ Token.bind clause.values row = some tokens := by
  simp only [Clause.tokens, Option.bind_eq_some_iff]
  constructor
  · rintro ⟨row, ⟨lexemes, found, composed⟩, bound⟩
    exact ⟨lexemes, row, found, composed, bound⟩
  · rintro ⟨lexemes, row, found, composed, bound⟩
    exact ⟨row, ⟨lexemes, found, composed⟩, bound⟩

/-- Clauses with a connective between them have the tokens of each, with the connective between.
Pieces, tokens and values are put together one after the other. -/
theorem tokens_connective (connective : Connective) {front back : Clause}
    {first second : List Token} (frontRead : front.tokens = some first)
    (backRead : back.tokens = some second) :
    (front ++ ofText connective.separator ++ back).tokens =
      some (first ++ Token.ofConnective connective :: second) := by
  obtain ⟨frontPieces, frontRow, frontFound, frontComposed, frontBound⟩ :=
    tokens_eq_some_iff.mp frontRead
  obtain ⟨backPieces, backRow, backFound, backComposed, backBound⟩ :=
    tokens_eq_some_iff.mp backRead
  have word : (Token.ofConnective connective).clause? = none := by cases connective <;> rfl
  refine tokens_eq_some_iff.mpr ⟨_, _, ?_,
    Token.of_lexemes_connective connective frontComposed backComposed, ?_⟩
  · simpa only [append_sql, of_text_sql, String.toList_append] using
      Lexeme.of_text_connective connective frontFound backFound
  · simpa only [append_values, of_text_values, List.append_nil] using
      Token.bind_append frontBound (Token.bind_cons word backBound)

/-- A clause in parentheses has its tokens between two parentheses, behind NOT when it is
negated. -/
theorem tokens_enclosed (negated : Bool) {clause : Clause} {tokens : List Token}
    (read : clause.tokens = some tokens) :
    (ofText (opening negated) ++ clause ++ ofText ")").tokens =
      some ((if negated then [.not] else []) ++ .opening :: (tokens ++ [.closing])) := by
  obtain ⟨pieces, row, found, composed, bound⟩ := tokens_eq_some_iff.mp read
  have closed : Lexeme.ofText ('(' :: (clause.sql.toList ++ [')'])) =
      some (.sign '(' :: (pieces ++ [.sign ')'])) :=
    Lexeme.of_text_opening (Lexeme.of_text_closing found)
  have ended : Token.bind clause.values (.opening :: (row ++ [.closing])) =
      some (.opening :: (tokens ++ [.closing])) := by
    have last := Token.bind_append bound (rfl : Token.bind [] [.closing] = some [.closing])
    rw [List.append_nil] at last
    exact Token.bind_cons rfl last
  refine tokens_eq_some_iff.mpr ⟨_, _, ?_, Token.of_lexemes_enclosed negated composed, ?_⟩
  · cases negated with
    | false => simpa [opening] using closed
    | true =>
      have word : Lexeme.ofText ['N', 'O', 'T'] = some [.word ['N', 'O', 'T']] := rfl
      simpa [opening] using Lexeme.of_text_blank word closed
  · cases negated with
    | false => simpa using ended
    | true => simpa using Token.bind_cons rfl ended

end Clause

end SqlCondition
